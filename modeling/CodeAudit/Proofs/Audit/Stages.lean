import CodeAudit.Audit.Run
import CodeAudit.Proofs.Audit.Retry

/-! What one stage of a run can do: how its progress is published, what its work may change, and in
which ways it can end. -/
namespace CodeAudit

theorem Fault.failsStage_stageAborted (f : Fault) : f.stageAborted.failsStage = true := by
  unfold stageAborted failsStage
  cases f.severity <;> rfl

theorem Recovery.recordAll_nil (r : Recovery) : r.recordAll [] = r := by simp [recordAll]

namespace RunState

/-- A state with more records, of which the listener is told, another sink and more faults. -/
def noted (s : RunState) (news : List StageProgress) (sink : Option Sink) (faults : List Fault) : RunState :=
  { s with
    records := s.records ++ news
    channel := s.channel.map (· ++ news)
    sink := sink
    recovery := s.recovery.recordAll faults }

variable {s : RunState} {news : List StageProgress} {sink : Option Sink} {faults : List Fault}

@[simp] theorem noted_data : (s.noted news sink faults).data = s.data := rfl

@[simp] theorem noted_execution : (s.noted news sink faults).execution = s.execution := rfl

@[simp] theorem noted_recovery :
    (s.noted news sink faults).recovery = s.recovery.recordAll faults := rfl

/-- A record is listed in any case; a refusal leaves a fault of the stage it tells of. -/
theorem publish_cases (s : RunState) (p : StageProgress) :
    (∃ sink, s.publish p = (none, s.noted [p] sink [])) ∨
      ∃ f : Fault, f.stage = some p.stage ∧ f.failsStage = true ∧
        s.publish p = (some f, s.noted [p] s.sink [f]) := by
  unfold publish
  cases hsink : s.sink with
  | none => exact .inl ⟨none, by simp [noted, Recovery.recordAll_nil]⟩
  | some sink =>
    cases hp : sink.upsertProgress p with
    | ok sink' => exact .inl ⟨some sink', by simp [noted, hp, Recovery.recordAll_nil]⟩
    | error why =>
      refine .inr ⟨(Fault.new .storage ("Failed to store progress: " ++ why)).atStage p.stage, rfl, rfl, ?_⟩
      simp [noted, record, hp]

/-- A state in which a stage has stopped a run for a fault: the last record and all new faults tell
of this stage. -/
structure Stopped (stage : Stage) (f : Fault) (s s' : RunState) : Prop where
  noted : ∃ news sink faults, s' = s.noted news sink faults ∧
    news.getLast?.map (·.stage) = some stage ∧ f ∈ faults ∧ ∀ g ∈ faults, g.stage = some stage
  fails : f.failsStage = true

/-- A stage whose first or last record is refused stops where it is. -/
theorem stopped_of_refused {p : StageProgress} {f : Fault} (hstage : f.stage = some p.stage)
    (hfails : f.failsStage = true) : Stopped p.stage f s (s.noted [p] s.sink [f]) := by
  refine ⟨⟨_, _, [f], rfl, rfl, List.mem_singleton_self f, ?_⟩, hfails⟩
  intro g hg
  rw [List.mem_singleton.mp hg, hstage]

/-- A stage whose work failed stops after it; the record of the failure may be refused too. -/
theorem stopped_of_failed (s : RunState) {stage : Stage} {f : Fault} (hstage : f.stage = some stage)
    (hfails : f.failsStage = true) {p : StageProgress} (hp : p.stage = stage) :
    Stopped stage f s ((s.record [f]).publish p).2 := by
  refine ⟨?_, hfails⟩
  obtain ⟨sink, hend⟩ | ⟨g, hg, -, hend⟩ := (s.record [f]).publish_cases p
  · refine ⟨[p], sink, [f], ?_, by simp [hp], by simp, ?_⟩
    · rw [hend]
      simp only [noted, record, Recovery.recordAll_nil]
    · intro d hd
      rw [List.mem_singleton.mp hd, hstage]
  · refine ⟨[p], s.sink, [f, g], ?_, by simp [hp], by simp, ?_⟩
    · rw [hend]
      simp only [noted, record, Recovery.recordAll_recordAll, List.cons_append, List.nil_append]
    · intro d hd
      rcases List.mem_cons.mp hd with rfl | hd
      · exact hstage
      · rw [List.mem_singleton.mp hd, hg, hp]

/-- The ways in which the work of a stage ends: its data are kept, or the run stops, before the work
or after it. -/
theorem runStage_cases (s : RunState) (stage : Stage) (work : RunState → StageEffect) :
    (∃ news news' sink sink' data,
      (work (s.noted news sink [])).outcome = .ok data ∧
        s.runStage stage work =
          (none, { (work (s.noted news sink [])).state.noted news' sink' [] with data := data })) ∨
      ∃ f s', s.runStage stage work = (some f, s') ∧
        (Stopped stage f s s' ∨ ∃ news sink, Stopped stage f (work (s.noted news sink [])).state s') := by
  unfold runStage
  obtain ⟨sink, hpublish⟩ | ⟨f, hstage, hfails, hpublish⟩ := s.publish_cases (.running s.execution stage)
  · simp only [hpublish, noted_execution]
    generalize [StageProgress.running s.execution stage] = news
    generalize heffect : work (s.noted news sink []) = effect
    obtain ⟨t, outcome⟩ := effect
    cases outcome with
    | ok data =>
      obtain ⟨sink', hend⟩ | ⟨f, hstage, hfails, hend⟩ := t.publish_cases (.completed s.execution stage 0)
      · refine .inl ⟨news, [.completed s.execution stage 0], sink, sink', data, ?_, ?_⟩
        · rw [heffect]
        · simp only [heffect, hend]
          rfl
      · refine .inr ⟨f, t.noted [.completed s.execution stage 0] t.sink [f], ?_, .inr ⟨news, sink, ?_⟩⟩
        · simp only [hend]
        · rw [heffect]
          exact stopped_of_refused hstage hfails
    | error f =>
      refine .inr ⟨_, _, rfl, .inr ⟨news, sink, ?_⟩⟩
      rw [heffect]
      exact stopped_of_failed t rfl (Fault.failsStage_stageAborted _) rfl
  · refine .inr ⟨f, _, by rw [hpublish], .inl ?_⟩
    exact stopped_of_refused hstage hfails

end RunState

/-- A result without the texts of an assistant: what the stages before the last one made. -/
def NormalizedResult.unassisted (r : NormalizedResult) : NormalizedResult := { r with assistance := {} }

theorem RunContext.normalizeAll_unassisted (c : RunContext) (rs : List CategorizedResult) :
    (c.normalizeAll rs).map NormalizedResult.unassisted = c.normalizeAll rs := by
  rw [normalizeAll, List.map_map]
  rfl

namespace Enhancement

/-- An assistant writes its texts and changes nothing else. -/
theorem run_unassisted (c : AssistantConfig) (scheduler : SchedulerConfig) (e : Enhancer)
    (results : List NormalizedResult) (r : Recovery) :
    (run c scheduler e results r).results.map NormalizedResult.unassisted =
      results.map NormalizedResult.unassisted := by
  have hassist : ∀ texts : Nat → Assistance,
      (results.zipIdx.map fun x => x.1.assist (texts x.2)).map NormalizedResult.unassisted =
        results.map NormalizedResult.unassisted := by
    intro texts
    have hfst : results.zipIdx.map Prod.fst = results := List.zipIdx_map_fst 0 results
    calc (results.zipIdx.map fun x => x.1.assist (texts x.2)).map NormalizedResult.unassisted
        = (results.zipIdx.map Prod.fst).map NormalizedResult.unassisted := by
          rw [List.map_map, List.map_map]
          rfl
      _ = results.map NormalizedResult.unassisted := by rw [hfst]
  exact hassist _

theorem failsStage_fault (r : NormalizedResult) (t : Task AssistRequest String) :
    (fault r t).failsStage = false := by
  simp only [fault, faultKind]
  split <;> rfl

/-- A refused request is recorded as a call that failed. -/
theorem exists_of_mem_refused {s : Simulation AssistRequest String} {qs : List AssistRequest} {f : Fault}
    (hf : f ∈ (submit s qs).1.refused) : ∃ q ∈ qs, ∃ e : QueueError, f = faultOn q.result .assistantCall e.message := by
  induction qs generalizing s with
  | nil => cases hf
  | cons q rest ih =>
    have hrest : ∀ {s}, f ∈ (submit s rest).1.refused →
        ∃ q' ∈ q :: rest, ∃ e : QueueError, f = faultOn q'.result .assistantCall e.message := by
      intro s hf
      obtain ⟨q', hq', he⟩ := ih hf
      exact ⟨q', List.mem_cons_of_mem q hq', he⟩
    unfold submit at hf
    split at hf
    · rename_i e _
      rcases List.mem_cons.mp hf with rfl | hf
      · exact ⟨q, List.mem_cons_self, e, rfl⟩
      · exact hrest hf
    · exact hrest hf

/-- A text that is refused or does not come leaves a fault of the last stage, which does not fail it. -/
theorem run_recovery (c : AssistantConfig) (scheduler : SchedulerConfig) (e : Enhancer)
    (results : List NormalizedResult) (r : Recovery) :
    ∃ faults, (run c scheduler e results r).recovery = r.recordAll faults ∧
      ∀ f ∈ faults, f.stage = some .enhancement ∧ f.failsStage = false := by
  refine ⟨_, rfl, ?_⟩
  intro f hf
  rcases List.mem_append.mp hf with hf | hf
  · obtain ⟨q, -, e, rfl⟩ := exists_of_mem_refused hf
    exact ⟨rfl, rfl⟩
  · obtain ⟨x, -, rfl⟩ := List.mem_map.mp hf
    exact ⟨rfl, failsStage_fault _ _⟩

end Enhancement

namespace Auditor

variable {a : Auditor} {s : RunState}

/-- The empty log that every run begins with. -/
def fresh (a : Auditor) : Recovery where
  baseDelayMs := a.config.scheduler.baseDelayMs
  maxRetries := a.config.scheduler.maxRetries

/-- The attempts at one analysis. -/
def analysisRun (a : Auditor) (x : String × List Finding) : RetryRun (List Finding) :=
  a.fresh.retry (a.attempt x.1 x.2)

/-- The findings of an analysis, if it has given them at last. -/
def returned (a : Auditor) (x : String × List Finding) : List Finding :=
  match (a.analysisRun x).outcome with
  | .ok found => found
  | .error _ => []

def faultsOf (a : Auditor) (x : String × List Finding) : List Fault := (a.analysisRun x).recovery.log

/-- Each analysis is on its own: neither its findings nor its faults depend on the others. -/
theorem runAnalyses_eq {r : Recovery} (hr : r.maxRetries = a.config.scheduler.maxRetries)
    (xs : List (String × List Finding)) :
    a.runAnalyses r xs = (xs.flatMap a.returned, r.recordAll (xs.flatMap a.faultsOf)) := by
  induction xs generalizing r with
  | nil => simp [runAnalyses, Recovery.recordAll_nil]
  | cons x rest ih =>
    obtain ⟨houtcome, hrecovery⟩ :=
      Recovery.retry_eq_of_maxRetries a.fresh hr rfl (a.attempt x.1 x.2)
    have hrest := ih (r := r.recordAll (a.faultsOf x)) hr
    simp only [runAnalyses, hrecovery, houtcome]
    rw [show (a.fresh.retry (a.attempt x.1 x.2)).recovery.log = a.faultsOf x from rfl, hrest,
      Recovery.recordAll_recordAll]
    rfl

/-- A failed attempt at an analysis: a fault of its stage, as grave as its kind, which is a passed time
limit or told from a text. -/
theorem attempt_error {name : String} {findings : List Finding} {n : Nat} {f : Fault}
    (h : a.attempt name findings n = .error f) :
    f.stage = some .staticAnalysis ∧ f.severity = f.kind.severity ∧
      (f.kind = .timeout ∨ ∃ message, f.kind = .classify message) := by
  unfold attempt at h
  split at h
  case h_1 => simp only [reduceCtorEq] at h
  case h_2 =>
    simp only [Except.error.injEq] at h
    subst h
    exact ⟨rfl, rfl, .inl rfl⟩
  case h_3 =>
    -- the kind stays closed: looking for words in the text is of no use here
    simp only [Except.error.injEq] at h
    generalize hkind : FaultKind.classify _ = kind at h
    subst h
    exact ⟨rfl, rfl, .inr ⟨_, hkind.symm⟩⟩

theorem analysisRun_series (a : Auditor) (x : String × List Finding) :
    Recovery.Series a.config.scheduler.maxRetries (a.attempt x.1 x.2) 1 (a.faultsOf x)
      (a.analysisRun x).outcome := by
  obtain ⟨faults, hseries, hrecovery⟩ := a.fresh.retry_series (a.attempt x.1 x.2)
  have hlog : a.faultsOf x = faults := by
    rw [faultsOf, analysisRun, hrecovery, Recovery.recordAll]
    rfl
  rw [hlog]
  exact hseries

theorem stage_of_mem_faultsOf {x : String × List Finding} {f : Fault} (hf : f ∈ a.faultsOf x) :
    f.stage = some .staticAnalysis := by
  obtain ⟨i, g, hop, rfl⟩ := (a.analysisRun_series x).exists_of_mem hf
  have hstage : g.stage = some .staticAnalysis := (attempt_error hop).1
  exact hstage

/-- What the work of a stage may change besides the data that it hands over: the cache, the sink,
the texts in the results, and the log, by faults of this stage. Only analyses leave faults that fail
their stage, and only normalization makes results. -/
structure Worked (stage : Stage) (s t : RunState) : Prop where
  context : t.context = s.context
  data : ∃ results, t.data = { s.data with results := results }
  results : stage ≠ .normalization →
    t.data.results.map NormalizedResult.unassisted = s.data.results.map NormalizedResult.unassisted
  recovery : ∃ faults, t.recovery = s.recovery.recordAll faults ∧ (∀ f ∈ faults, f.stage = some stage) ∧
    (stage ≠ .staticAnalysis → ∀ f ∈ faults, f.failsStage = false)

theorem Worked.refl (stage : Stage) (s : RunState) : Worked stage s s where
  context := rfl
  data := ⟨s.data.results, rfl⟩
  results := fun _ => rfl
  recovery := ⟨[], s.recovery.recordAll_nil.symm, by simp, by simp⟩

/-- Work that leaves the results alone and records faults of its stage. -/
theorem Worked.of_record {stage : Stage} (cache : AstCache AstFile) {faults : List Fault}
    (hstage : ∀ f ∈ faults, f.stage = some stage)
    (hfails : stage ≠ .staticAnalysis → ∀ f ∈ faults, f.failsStage = false) :
    Worked stage s ({ s with cache := cache }.record faults) where
  context := rfl
  data := ⟨s.data.results, rfl⟩
  results := fun _ => rfl
  recovery := ⟨faults, rfl, hstage, hfails⟩

theorem persist_cases (s : RunState) (rs : List NormalizedResult) :
    ∃ fault? sink, s.persist rs = (fault?, { s with sink := sink }) := by
  unfold RunState.persist
  split
  · exact ⟨none, s.sink, rfl⟩
  · split
    · exact ⟨none, _, rfl⟩
    · exact ⟨_, s.sink, rfl⟩

/-- Normalization makes the results before it stores them. -/
theorem normalize_state (s : RunState) :
    ∃ sink, (normalize s).state =
      { s with data := { s.data with results := s.context.normalizeAll s.data.categorized }, sink := sink } := by
  unfold normalize
  obtain ⟨fault?, sink, hpersist⟩ := persist_cases
    { s with data := { s.data with results := s.context.normalizeAll s.data.categorized } }
    (s.context.normalizeAll s.data.categorized)
  cases fault? with
  | none => exact ⟨sink, by simp only [hpersist]⟩
  | some f => exact ⟨sink, by simp only [hpersist]⟩

/-- Enhancement works on the results and on the log; what it does to the sink depends on both. -/
theorem enhance_state (e : Enhancer) (s : RunState) :
    let run := Enhancement.run a.config.assistant a.config.scheduler e s.data.results s.recovery
    ∃ sink, (a.enhance e s).state =
      { s with data := { s.data with results := run.results }, recovery := run.recovery, sink := sink } := by
  intro run
  unfold enhance
  obtain ⟨fault?, sink, hpersist⟩ := persist_cases
    { s with data := { s.data with results := run.results }, recovery := run.recovery }
    (run.results.filter (·.isAssisted))
  simp only
  split
  · exact ⟨s.sink, rfl⟩
  · cases fault? with
    | none => exact ⟨sink, by simp only [run] at hpersist ⊢; simp only [hpersist]⟩
    | some f => exact ⟨sink, by simp only [run] at hpersist ⊢; simp only [hpersist]⟩

theorem work_worked (stage : Stage) (hr : s.recovery.maxRetries = a.config.scheduler.maxRetries) :
    Worked stage s (a.work stage s).state := by
  cases stage with
  | languageDetection => exact .refl _ s
  | astParsing =>
    simp only [work, parse]
    split
    · exact .refl _ s
    · refine .of_record _ ?_ fun _ => ?_ <;> intro f hf <;> obtain ⟨t, -, rfl⟩ := List.mem_map.mp hf <;> rfl
  | graphConstruction =>
    simp only [work, buildGraph]
    split <;> exact .refl _ s
  | staticAnalysis =>
    simp only [work, analyze, runAnalyses_eq hr]
    refine .of_record s.cache ?_ fun h => absurd rfl h
    intro f hf
    obtain ⟨x, -, hf⟩ := List.mem_flatMap.mp hf
    exact stage_of_mem_faultsOf hf
  | ruleExecution =>
    simp only [work, runRules]
    split
    · exact .refl _ s
    · refine .of_record s.cache ?_ fun _ => ?_ <;> intro f hf <;>
        obtain ⟨e, -, rfl⟩ := List.mem_map.mp hf <;> simp only [ruleFault] <;> split <;> rfl
  | categorization => exact .refl _ s
  | normalization =>
    obtain ⟨sink, hstate⟩ := normalize_state s
    simp only [work, hstate]
    exact ⟨rfl, ⟨_, rfl⟩, fun h => absurd rfl h, [], s.recovery.recordAll_nil.symm, by simp, by simp⟩
  | enhancement =>
    simp only [work]
    split
    case h_2 => exact .refl _ s
    case h_1 e _ =>
      obtain ⟨sink, hstate⟩ := enhance_state (a := a) e s
      obtain ⟨faults, hrecovery, hfaults⟩ :=
        Enhancement.run_recovery a.config.assistant a.config.scheduler e s.data.results s.recovery
      rw [hstate]
      exact ⟨rfl, ⟨_, rfl⟩, fun _ => Enhancement.run_unassisted _ _ e _ s.recovery, faults, hrecovery,
        fun f hf => (hfaults f hf).1, fun _ f hf => (hfaults f hf).2⟩

end Auditor
end CodeAudit
