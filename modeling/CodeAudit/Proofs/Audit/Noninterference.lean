import CodeAudit.Proofs.Audit.Progress

/-! An assistant has no say in what is found. Two runs that differ only in the assistant and in their
names go through the stages in step until the last one, and the last one writes texts only. -/
namespace CodeAudit

/-- What a result says, apart from the run that it comes from and the texts of an assistant. -/
def NormalizedResult.anonymous (r : NormalizedResult) : NormalizedResult :=
  { r with id := "", execution := "", assistance := {} }

theorem NormalizedResult.map_anonymous_of_unassisted {rs rs' : List NormalizedResult}
    (h : rs.map unassisted = rs'.map unassisted) : rs.map anonymous = rs'.map anonymous := by
  have hsplit : anonymous = anonymous ∘ unassisted := rfl
  rw [hsplit, ← List.map_map, h, List.map_map]

/-- The name of a run shows in its results and nowhere else in them. -/
theorem RunContext.map_anonymous_normalizeAll (project execution execution' : String)
    (mappings : List LanguageMapping) (rs : List CategorizedResult) :
    (normalizeAll ⟨project, execution', mappings⟩ rs).map NormalizedResult.anonymous =
      (normalizeAll ⟨project, execution, mappings⟩ rs).map NormalizedResult.anonymous := by
  rw [normalizeAll, normalizeAll, List.map_map, List.map_map]
  rfl

/-- Two sinks that take the same records of two runs, the names of the runs apart. -/
structure Sink.Alike (execution execution' : String) (x y : Sink) : Prop where
  progress : ∀ p : StageProgress,
    y.refuseProgress { p with execution := execution' } = x.refuseProgress { p with execution := execution }
  results : ∀ project mappings rs,
    y.refuseResults (RunContext.normalizeAll ⟨project, execution', mappings⟩ rs) =
      x.refuseResults (RunContext.normalizeAll ⟨project, execution, mappings⟩ rs)

/-- Data that agree on everything but the names in the results. -/
def RunData.Alike (d d' : RunData) : Prop :=
  ∃ results, d' = { d with results := results } ∧
    results.map NormalizedResult.anonymous = d.results.map NormalizedResult.anonymous

namespace RunState

/-- Two states at the same point of two runs. -/
structure Alike (s t : RunState) : Prop where
  project : t.project = s.project
  data : s.data.Alike t.data
  cache : t.cache = s.cache
  recovery : t.recovery = s.recovery
  sinks : Option.Rel (Sink.Alike s.execution t.execution) s.sink t.sink

/-- Steps that both go on or both stop for the same fault. -/
def InStep (x y : Option Fault × RunState) : Prop :=
  ∃ fault? s t, x = (fault?, s) ∧ y = (fault?, t) ∧ Alike s t

end RunState

/-- What a stage leaves at the same point of two runs: the same fault, or data that agree. -/
structure StageEffect.Alike (x y : StageEffect) : Prop where
  state : x.state.Alike y.state
  outcome : (∃ f, x.outcome = .error f ∧ y.outcome = .error f) ∨
    ∃ d d', x.outcome = .ok d ∧ y.outcome = .ok d' ∧ d.Alike d'

namespace RunState

variable {s t : RunState}

theorem Alike.usable_eq (h : Alike s t) : t.usable = s.usable := by
  obtain ⟨results, hdata, -⟩ := h.data
  simp only [usable, h.recovery, hdata]

theorem Alike.salvage_anonymous (h : Alike s t) :
    t.salvage.map NormalizedResult.anonymous = s.salvage.map NormalizedResult.anonymous := by
  obtain ⟨results, hdata, -⟩ := h.data
  simp only [salvage, context, h.usable_eq, h.project, hdata]
  exact RunContext.map_anonymous_normalizeAll _ _ _ _ _

/-- Runs that stop at the same point return the same, their names apart. -/
theorem Alike.finalResults_anonymous (h : Alike s t) (f : Fault) :
    (Auditor.finalResults (some f) t).map NormalizedResult.anonymous =
      (Auditor.finalResults (some f) s).map NormalizedResult.anonymous := by
  obtain ⟨results, hdata, hanonymous⟩ := h.data
  have hempty : t.data.results.isEmpty = s.data.results.isEmpty := by
    rw [hdata, ← List.isEmpty_map, hanonymous, List.isEmpty_map]
  simp only [Auditor.finalResults, hempty]
  split
  · exact h.salvage_anonymous
  · rw [hdata]
    exact hanonymous

theorem Alike.record (h : Alike s t) (faults : List Fault) : Alike (s.record faults) (t.record faults) :=
  { h with recovery := congrArg (·.recordAll faults) h.recovery }

/-- Both sinks take a record or both refuse it, with the same words. -/
theorem Alike.publish (h : Alike s t) {p q : StageProgress} (hp : p.execution = s.execution)
    (hq : q = { p with execution := t.execution }) : InStep (s.publish p) (t.publish q) := by
  subst hq
  have hsinks := h.sinks
  unfold RunState.publish
  cases hs : s.sink with
  | none =>
    cases ht : t.sink with
    | none => exact ⟨_, _, _, rfl, rfl, { h with sinks := .none }⟩
    | some y =>
      rw [hs, ht] at hsinks
      cases hsinks
  | some x =>
    cases ht : t.sink with
    | none =>
      rw [hs, ht] at hsinks
      cases hsinks
    | some y =>
      rw [hs, ht] at hsinks
      cases hsinks with
      | some hsink =>
        have hrefuse := hsink.progress p
        rw [← hp] at hrefuse
        simp only [Sink.upsertProgress, hrefuse]
        cases x.refuseProgress p with
        | none => exact ⟨_, _, _, rfl, rfl, { h with sinks := .some { hsink with } }⟩
        | some why => exact ⟨_, _, _, rfl, rfl, { h.record _ with sinks := .some hsink }⟩

/-- Work that is in step makes a stage that is in step. -/
theorem Alike.runStage {stage : Stage} {work : RunState → StageEffect}
    (hwork : ∀ {s t : RunState}, Alike s t → (work s).Alike (work t))
    (hexecution : ∀ s, (work s).state.execution = s.execution) (h : Alike s t) :
    InStep (s.runStage stage work) (t.runStage stage work) := by
  obtain ⟨f?, s', t', hs, ht, hbegun⟩ := h.publish (p := .running s.execution stage) rfl rfl
  change t.publish (.running t.execution stage) = _ at ht
  unfold RunState.runStage
  rw [hs, ht]
  cases f? with
  | some f => exact ⟨_, _, _, rfl, rfl, hbegun⟩
  | none =>
    obtain ⟨hstate, ⟨f, hf, hf'⟩ | ⟨d, d', hd, hd', hdata⟩⟩ := hwork hbegun
    · simp only [hf, hf']
      generalize (f.atStage stage).stageAborted = g
      obtain ⟨_, u, v, hu, hv, huv⟩ := (hstate.record [g]).publish
        (p := .failed ((work s').state.record [g]).execution stage g.message 0) rfl rfl
      change ((work t').state.record [g]).publish
        (.failed ((work t').state.record [g]).execution stage g.message 0) = _ at hv
      refine ⟨some g, _, _, rfl, rfl, ?_⟩
      rw [hu, hv]
      exact huv
    · simp only [hd, hd']
      obtain ⟨f?, u, v, hu, hv, huv⟩ := hstate.publish
        (p := .completed s'.execution stage 0) (hexecution s').symm rfl
      rw [hexecution t'] at hv
      change (work t').state.publish (.completed t'.execution stage 0) = _ at hv
      rw [hu, hv]
      cases f? with
      | some f => exact ⟨_, _, _, rfl, rfl, huv⟩
      | none => exact ⟨_, _, _, rfl, rfl, { huv with data := hdata }⟩

end RunState

namespace Auditor

variable {a : Auditor} {s t : RunState} {stage : Stage}

theorem work_execution (a : Auditor) (stage : Stage) (s : RunState) :
    (a.work stage s).state.execution = s.execution := by
  cases stage with
  | languageDetection | staticAnalysis | categorization => rfl
  | astParsing | graphConstruction | ruleExecution =>
    simp only [work, parse, buildGraph, runRules]
    split <;> rfl
  | normalization =>
    obtain ⟨sink, hstate⟩ := normalize_state s
    rw [work, hstate]
  | enhancement =>
    simp only [work]
    split
    · rename_i e _
      obtain ⟨sink, hstate⟩ := enhance_state (a := a) e s
      rw [hstate]
    · rfl

/-- Normalization gives the results the name of the run, and both sinks take them or refuse them. -/
theorem normalize_alike (h : s.Alike t) : (normalize s).Alike (normalize t) := by
  obtain ⟨results, hresults, -⟩ := h.data
  have hcategorized : t.data.categorized = s.data.categorized := by rw [hresults]
  have hanonymous := RunContext.map_anonymous_normalizeAll s.project s.execution t.execution s.data.mappings
    s.data.categorized
  have hcontext : t.context = ⟨s.project, t.execution, s.data.mappings⟩ := by
    rw [RunState.context, h.project, hresults]
  have hmade : RunData.Alike { s.data with results := s.context.normalizeAll s.data.categorized }
      { t.data with results := t.context.normalizeAll t.data.categorized } := by
    refine ⟨_, ?_, hanonymous⟩
    rw [hcontext, hresults]
  have hlength : (t.context.normalizeAll t.data.categorized).length =
      (s.context.normalizeAll s.data.categorized).length := by
    have hmap := congrArg List.length hanonymous
    rw [List.length_map, List.length_map] at hmap
    rw [hcontext, hcategorized]
    exact hmap
  have hsinks := h.sinks
  unfold normalize RunState.persist
  cases hs : s.sink with
  | none =>
    cases ht : t.sink with
    | none => exact ⟨{ h with data := hmade, sinks := .none }, .inr ⟨_, _, rfl, rfl, hmade⟩⟩
    | some y =>
      rw [hs, ht] at hsinks
      cases hsinks
  | some x =>
    cases ht : t.sink with
    | none =>
      rw [hs, ht] at hsinks
      cases hsinks
    | some y =>
      rw [hs, ht] at hsinks
      cases hsinks with
      | some hsink =>
        have hrefuse : y.refuseResults (t.context.normalizeAll t.data.categorized) =
            x.refuseResults (s.context.normalizeAll s.data.categorized) := by
          rw [hcontext, hcategorized]
          exact hsink.results s.project s.data.mappings s.data.categorized
        simp only [Sink.write, hrefuse]
        cases x.refuseResults (s.context.normalizeAll s.data.categorized) with
        | none => exact ⟨{ h with data := hmade, sinks := .some { hsink with } }, .inr ⟨_, _, rfl, rfl, hmade⟩⟩
        | some why =>
          refine ⟨{ h with data := hmade, sinks := .some hsink }, .inl ⟨_, rfl, ?_⟩⟩
          simp only [hlength]

/-- Before the last stage the work of a stage looks at nothing that two runs may differ in. -/
theorem work_alike (hstage : stage ≠ .enhancement) (h : s.Alike t) : (a.work stage s).Alike (a.work stage t) := by
  obtain ⟨results, hresults, hanonymous⟩ := h.data
  cases stage with
  | languageDetection =>
    refine ⟨h, .inr ⟨_, _, rfl, rfl, results, ?_, hanonymous⟩⟩
    rw [hresults]
  | astParsing =>
    have hinputs : parseInputs t.data = parseInputs s.data := by rw [hresults]; rfl
    simp only [work, parse, hinputs, h.cache]
    cases a.breakdownFault? .astParsing .astParse "Parser workers failed" with
    | some f => exact ⟨h, .inl ⟨f, rfl, rfl⟩⟩
    | none =>
      refine ⟨{ h.record _ with cache := rfl }, .inr ⟨_, _, rfl, rfl, results, ?_, hanonymous⟩⟩
      rw [hresults]
  | graphConstruction =>
    simp only [work, buildGraph, hresults]
    cases a.breakdownFault? .graphConstruction .unknown "IR construction failed" with
    | some f => exact ⟨h, .inl ⟨f, rfl, rfl⟩⟩
    | none => exact ⟨h, .inr ⟨_, _, rfl, rfl, results, rfl, hanonymous⟩⟩
  | staticAnalysis =>
    simp only [work, analyze, hresults, h.recovery]
    exact ⟨{ h with data := ⟨results, rfl, hanonymous⟩, recovery := rfl },
      .inr ⟨_, _, rfl, rfl, results, rfl, hanonymous⟩⟩
  | ruleExecution =>
    have hruns : a.ruleRuns t.data = a.ruleRuns s.data := by rw [hresults]; rfl
    simp only [work, runRules, hruns]
    cases a.ruleRuns s.data with
    | error f => exact ⟨h, .inl ⟨f, rfl, rfl⟩⟩
    | ok runs =>
      refine ⟨h.record _, .inr ⟨_, _, rfl, rfl, results, ?_, hanonymous⟩⟩
      rw [hresults]
  | categorization =>
    refine ⟨h, .inr ⟨_, _, rfl, rfl, results, ?_, hanonymous⟩⟩
    rw [h.usable_eq, hresults]
  | normalization => exact normalize_alike h
  | enhancement => exact absurd rfl hstage

/-- An auditor with another assistant. -/
def withAssistant (a : Auditor) (c : AssistantConfig) (e : Option Enhancer) : Auditor :=
  { a with config := { a.config with assistant := c }, enhancer := e }

theorem work_withAssistant (c : AssistantConfig) (e : Option Enhancer) (hstage : stage ≠ .enhancement) :
    (a.withAssistant c e).work stage = a.work stage := by
  cases stage with
  | enhancement => exact absurd rfl hstage
  | _ => rfl

/-- A stage before the last one is in step. -/
theorem perform_inStep {c c' : AssistantConfig} {e e' : Option Enhancer} (hstage : stage ≠ .enhancement)
    (h : s.Alike t) :
    RunState.InStep ((a.withAssistant c e).perform stage s) ((a.withAssistant c' e').perform stage t) := by
  have hskip : ∀ b : Auditor, b.skipReason? stage = none := by
    intro b
    cases stage with
    | enhancement => exact absurd rfl hstage
    | _ => rfl
  simp only [perform, hskip, work_withAssistant _ _ hstage]
  exact h.runStage (work_alike hstage) (a.work_execution stage)

theorem performAll_inStep {c c' : AssistantConfig} {e e' : Option Enhancer} {stages : List Stage}
    (hstages : .enhancement ∉ stages) (h : s.Alike t) :
    RunState.InStep ((a.withAssistant c e).performAll stages s) ((a.withAssistant c' e').performAll stages t) := by
  induction stages generalizing s t with
  | nil => exact ⟨none, s, t, rfl, rfl, h⟩
  | cons stage rest ih =>
    have hstage : stage ≠ .enhancement := fun heq => hstages (heq ▸ List.mem_cons_self)
    have hrest : Stage.enhancement ∉ rest := fun hmem => hstages (List.mem_cons_of_mem _ hmem)
    have hstep : RunState.InStep ((a.withAssistant c e).perform stage s) ((a.withAssistant c' e').perform stage t) :=
      perform_inStep hstage h
    obtain ⟨f?, s', t', hs, ht, hnext⟩ := hstep
    simp only [performAll, hs, ht]
    cases f? with
    | some f => exact ⟨_, s', t', rfl, rfl, hnext⟩
    | none => exact ih hrest hnext

theorem performAll_append (a : Auditor) (xs ys : List Stage) (s : RunState) :
    a.performAll (xs ++ ys) s =
      match a.performAll xs s with
      | (some f, s) => (some f, s)
      | (none, s) => a.performAll ys s := by
  induction xs generalizing s with
  | nil => rfl
  | cons stage rest ih =>
    simp only [List.cons_append, performAll]
    split
    · rfl
    · exact ih _

/-- Once the rules have run, what can be salvaged is settled. -/
theorem Kept.salvage_unique {st : AuditState} {project : String} {files : List SourceFile} {k k' : Nat}
    (h : Kept a st project files k s) (h' : Kept a st project files k' t)
    (hk : Stage.ruleExecution.number ≤ k) (hk' : Stage.ruleExecution.number ≤ k') : t.salvage = s.salvage := by
  have hstatic : Stage.staticAnalysis.number ≤ Stage.ruleExecution.number := by decide
  have hfirst : Stage.languageDetection.number ≤ Stage.ruleExecution.number := by decide
  have hviolations : t.data.violations = s.data.violations := by
    have hv := h.produced.violations
    have hv' := h'.produced.violations
    rw [if_pos hk] at hv
    rw [if_pos hk', hv] at hv'
    exact (Except.ok.inj hv').symm
  have hfindings : t.data.findings = s.data.findings := by
    rw [h.produced.findings, h'.produced.findings, if_pos (by omega), if_pos (by omega)]
  rw [h.salvage_eq, h'.salvage_eq, h.context_eq (by omega), h'.context_eq (by omega), hviolations, hfindings]
  simp only [h.logged.analyses (Nat.le_trans hstatic hk), h'.logged.analyses (Nat.le_trans hstatic hk')]

/-- However the last stage ends, the results are those before it, with texts or without. -/
theorem Ready.finalResults_enhancement {st : AuditState} {project : String} {files : List SourceFile}
    (h : Ready a st project files (Stage.enhancement.number - 1) s) :
    (finalResults (a.perform .enhancement s).1 (a.perform .enhancement s).2).map NormalizedResult.unassisted =
      s.data.results.map NormalizedResult.unassisted := by
  have hbefore : s.data.results.map NormalizedResult.unassisted = s.salvage := h.normalized
  rw [hbefore]
  obtain ⟨t, hperform, ht⟩ | ⟨f, t, hperform, ht⟩ := h.perform
  · have hafter : t.data.results.map NormalizedResult.unassisted = t.salvage := ht.normalized
    rw [hperform]
    exact hafter.trans (h.toKept.salvage_unique ht.toKept (by decide) (by decide))
  · rw [hperform]
    exact (ht.kept.finalResults_eq f).trans (h.toKept.salvage_unique ht.kept (by decide) (by decide))

end Auditor

/-- Two states in which two runs begin that differ in their names only. -/
structure AuditState.Alike (st other : AuditState) : Prop where
  cache : other.cache = st.cache
  sinks : Option.Rel (Sink.Alike s!"run-{st.runs}" s!"run-{other.runs}") st.sink other.sink

theorem Auditor.begin_alike (a : Auditor) {st st' : AuditState} (h : st.Alike st') (project : String)
    (files : List SourceFile) {c c' : AssistantConfig} {e e' : Option Enhancer} :
    ((a.withAssistant c e).begin st project files).Alike ((a.withAssistant c' e').begin st' project files) where
  project := rfl
  data := ⟨[], rfl, rfl⟩
  cache := h.cache
  recovery := rfl
  sinks := h.sinks

namespace Auditor

variable {a : Auditor} {st : AuditState} {project : String} {files : List SourceFile} {s : RunState}

/-- A run that stops before the last stage returns what it has then. -/
theorem run_results_of_stopped {f : Fault}
    (h : a.performAll Stage.all.dropLast (a.begin st project files) = (some f, s)) :
    (a.run st project files).1.results = finalResults (some f) s := by
  have hsplit : Stage.all = Stage.all.dropLast ++ [.enhancement] := rfl
  simp only [run]
  rw [hsplit, performAll_append, h]

/-- A run that comes to the last stage returns the results that it has then, with texts or without. -/
theorem run_results_of_reached
    (h : a.performAll Stage.all.dropLast (a.begin st project files) = (none, s)) :
    (a.run st project files).1.results.map NormalizedResult.unassisted =
      s.data.results.map NormalizedResult.unassisted := by
  have hsplit : Stage.all = Stage.all.dropLast ++ [.enhancement] := rfl
  have hbegin : Ready a st project files ([] : List Stage).length (a.begin st project files) :=
    ready_begin a st project files
  have hready : Ready a st project files (Stage.enhancement.number - 1) s := by
    have hall : [] ++ Stage.all.dropLast ++ [.enhancement] = Stage.all := rfl
    obtain ⟨s', hs', hready⟩ | ⟨_, _, _, hs', -⟩ := hbegin.performAll hall
    · rw [h] at hs'
      cases hs'
      exact hready
    · rw [h] at hs'
      cases hs'
  have hlast : a.performAll Stage.all (a.begin st project files) = a.perform .enhancement s := by
    rw [hsplit, performAll_append, h]
    rcases hperform : a.perform .enhancement s with ⟨_ | f, t⟩ <;> simp only [performAll, hperform]
  simp only [run, hlast]
  exact hready.finalResults_enhancement

end Auditor

/-- Whatever an assistant answers, and whether there is one at all, a run returns the same results in
the same order: nothing but their texts and the name of the run in them can differ. -/
theorem assistant_changes_texts_only (a : Auditor) (c c' : AssistantConfig) (e e' : Option Enhancer)
    (st st' : AuditState) (project : String) (files : List SourceFile) (h : st.Alike st') :
    ((a.withAssistant c' e').run st' project files).1.results.map NormalizedResult.anonymous =
      ((a.withAssistant c e).run st project files).1.results.map NormalizedResult.anonymous := by
  have hstep : RunState.InStep
      ((a.withAssistant c e).performAll Stage.all.dropLast ((a.withAssistant c e).begin st project files))
      ((a.withAssistant c' e').performAll Stage.all.dropLast ((a.withAssistant c' e').begin st' project files)) :=
    Auditor.performAll_inStep (by decide) (a.begin_alike h project files)
  obtain ⟨fault?, s, t, hs, ht, hst⟩ := hstep
  cases fault? with
  | some f =>
    rw [Auditor.run_results_of_stopped hs, Auditor.run_results_of_stopped ht]
    exact hst.finalResults_anonymous f
  | none =>
    have hresults := NormalizedResult.map_anonymous_of_unassisted (Auditor.run_results_of_reached hs)
    have hresults' := NormalizedResult.map_anonymous_of_unassisted (Auditor.run_results_of_reached ht)
    obtain ⟨results, hdata, hanonymous⟩ := hst.data
    rw [hresults, hresults', hdata]
    exact hanonymous

/-- An assistant that explains, has no suggestion and is silent on security. -/
def moodyEnhancer : Enhancer := fun kind _ _ =>
  match kind with
  | .explanation => { reply := .output "nested too deeply" }
  | .suggestion => { reply := .error "unavailable" }
  | .securityAdvice => { reply := .output "  " }

def shallowAuditor : Auditor where
  config := { maxNestingDepth := 1 }
  exclude := ⟨[]⟩
  engine := {}
  ruleSets := []

def emptyState (runs : Nat) : AuditState := { cache := .empty 1, sink := some {}, runs := runs }

def deepFiles : List SourceFile := [.loaded "a/b/notes.txt" "one line"]

/-- The second of two runs has an assistant, and both return the one finding there is. -/
theorem moodyEnhancer_changes_texts_only :
    (emptyState 0).Alike (emptyState 1) ∧
      ((shallowAuditor.withAssistant {} none).run (emptyState 0) "demo" deepFiles).1.results.length = 1 ∧
      ((shallowAuditor.withAssistant { enabled := true } (some moodyEnhancer)).run (emptyState 1) "demo"
          deepFiles).1.results.map NormalizedResult.anonymous =
        ((shallowAuditor.withAssistant {} none).run (emptyState 0) "demo"
          deepFiles).1.results.map NormalizedResult.anonymous := by
  have halike : (emptyState 0).Alike (emptyState 1) := ⟨rfl, .some ⟨fun _ => rfl, fun _ _ _ => rfl⟩⟩
  refine ⟨halike, by decide +kernel, ?_⟩
  exact assistant_changes_texts_only shallowAuditor {} { enabled := true } none (some moodyEnhancer)
    (emptyState 0) (emptyState 1) "demo" deepFiles halike

end CodeAudit
