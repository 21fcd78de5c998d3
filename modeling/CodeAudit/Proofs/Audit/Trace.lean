import CodeAudit.Proofs.Audit.Stages

/-! The records of a run, read as a course through the stages: which records each stage leaves, what
lets the next stage begin, and what stops the run. The sink is asked about every record, and its
answers are the same from the first stage to the last. -/
namespace CodeAudit

/-- The sink, if there is one, would not take the record. -/
def Sink.refuses (sink : Option Sink) (p : StageProgress) : Bool := sink.any fun k => (k.refuseProgress p).isSome

namespace RunState

variable {s t u : RunState} {news more : List StageProgress}

/-- From one state to another the given records were published, and the sink refuses what it did before. -/
structure Told (s t : RunState) (news : List StageProgress) : Prop where
  records : t.records = s.records ++ news
  channel : t.channel = s.channel.map (· ++ news)
  execution : t.execution = s.execution
  refuses : Sink.refuses t.sink = Sink.refuses s.sink

theorem Told.refl (s : RunState) : Told s s [] where
  records := (List.append_nil _).symm
  channel := by simp
  execution := rfl
  refuses := rfl

theorem Told.trans (h : Told s t news) (h' : Told t u more) : Told s u (news ++ more) where
  records := by rw [h'.records, h.records, List.append_assoc]
  channel := by
    rw [h'.channel, h.channel, Option.map_map]
    congr 1
    funext heard
    exact List.append_assoc heard news more
  execution := h'.execution.trans h.execution
  refuses := h'.refuses.trans h.refuses

/-- A record is always listed and sent; the sink alone decides whether there is a fault. -/
theorem publish_told (s : RunState) (p : StageProgress) :
    Told s (s.publish p).2 [p] ∧ (s.publish p).1.isSome = Sink.refuses s.sink p := by
  unfold publish
  cases hsink : s.sink with
  | none => exact ⟨⟨rfl, rfl, rfl, by rw [hsink]⟩, rfl⟩
  | some sink =>
    simp only [Sink.upsertProgress]
    cases hrefuse : sink.refuseProgress p with
    | none =>
      refine ⟨⟨rfl, rfl, rfl, ?_⟩, ?_⟩
      · rw [hsink]
        rfl
      · simp [Sink.refuses, hrefuse]
    | some why =>
      refine ⟨⟨rfl, rfl, rfl, ?_⟩, ?_⟩
      · rw [hsink]
        rfl
      · simp [Sink.refuses, hrefuse]

theorem persist_told (s : RunState) (rs : List NormalizedResult) : Told s (s.persist rs).2 [] := by
  unfold persist
  split
  · exact .refl s
  · rename_i sink hsink
    unfold Sink.write
    cases sink.refuseResults rs with
    | none =>
      refine { Told.refl s with refuses := ?_ }
      rw [hsink]
      rfl
    | some why => exact .refl s

end RunState

/-- What the records of a stage tell of it. -/
inductive StageEnd where
  | begun
  | completed
  | failed (error : String)
  | skipped (reason : String)
deriving DecidableEq, Repr

namespace StageEnd

/-- The records of a stage that ends so. -/
def records (execution : String) (stage : Stage) : StageEnd → List StageProgress
  | begun => [.running execution stage]
  | completed => [.running execution stage, .completed execution stage 0]
  | failed error => [.running execution stage, .failed execution stage error 0]
  | skipped reason => [.skipped execution stage reason]

/-- The stage has been done, or it is the last one and left out. -/
def Passed (stage : Stage) (how : StageEnd) : Prop :=
  how = completed ∨ stage = .enhancement ∧ ∃ reason, how = skipped reason

/-- Why a run goes no further than a stage. -/
inductive Stops (refuses : StageProgress → Bool) (execution : String) (stage : Stage) : StageEnd → Prop where
  | refusedStart (h : refuses (.running execution stage) = true) : Stops refuses execution stage begun
  | failedWork (error : String) : Stops refuses execution stage (failed error)
  | refusedEnd {how : StageEnd} (hpassed : how.Passed stage) {p : StageProgress}
      (hp : p ∈ how.records execution stage) (h : refuses p = true) : Stops refuses execution stage how

end StageEnd

/-- The ways through stages in a row, up to the first one that stops the run; the truth value tells
whether none did. -/
inductive Course (refuses : StageProgress → Bool) (execution : String) :
    List Stage → List (Stage × StageEnd) → Bool → Prop where
  | finished : Course refuses execution [] [] true
  | passed {stage : Stage} {how : StageEnd} {rest : List Stage} {trace : List (Stage × StageEnd)} {ok : Bool}
      (hpassed : how.Passed stage) (htaken : ∀ p ∈ how.records execution stage, refuses p = false)
      (hrest : Course refuses execution rest trace ok) :
      Course refuses execution (stage :: rest) ((stage, how) :: trace) ok
  | stopped {stage : Stage} {how : StageEnd} {rest : List Stage}
      (h : StageEnd.Stops refuses execution stage how) :
      Course refuses execution (stage :: rest) [(stage, how)] false

/-- The records of all stages of a course. -/
def recordsOf (execution : String) (trace : List (Stage × StageEnd)) : List StageProgress :=
  trace.flatMap fun x => x.2.records execution x.1

namespace Course

variable {refuses : StageProgress → Bool} {execution : String} {stages : List Stage}
  {trace : List (Stage × StageEnd)} {ok : Bool} {x : Stage × StageEnd}

theorem stages_prefix (h : Course refuses execution stages trace ok) : trace.map (·.1) <+: stages := by
  induction h with
  | finished => exact List.prefix_refl []
  | passed _ _ _ ih => exact (List.prefix_cons_inj _).mpr ih
  | stopped _ => exact (List.prefix_cons_inj _).mpr (List.nil_prefix)

theorem passed_of_mem_dropLast (h : Course refuses execution stages trace ok) (hx : x ∈ trace.dropLast) :
    x.2.Passed x.1 := by
  induction h with
  | finished => cases hx
  | passed hpassed _ hrest ih =>
    cases hrest with
    | finished => cases hx
    | passed | stopped =>
      rcases List.mem_cons.mp hx with rfl | hx
      · exact hpassed
      · exact ih hx
  | stopped _ => cases hx

/-- Only the last stage can be left out, so that the stages before the last one reached were done. -/
theorem completed_of_mem_dropLast (h : Course refuses execution Stage.all trace ok) (hx : x ∈ trace.dropLast) :
    x.2 = .completed := by
  rcases h.passed_of_mem_dropLast hx with hcompleted | ⟨hlast, -⟩
  · exact hcompleted
  · have hmem : x.1 ∈ (trace.map (·.1)).dropLast := by
      rw [← List.map_dropLast]
      exact List.mem_map_of_mem hx
    obtain ⟨after, hafter⟩ := h.stages_prefix
    have hall : x.1 ∈ Stage.all.dropLast := by
      rw [← hafter]
      cases after with
      | nil => rwa [List.append_nil]
      | cons y ys =>
        rw [List.dropLast_append_of_ne_nil (List.cons_ne_nil y ys)]
        exact List.mem_append_left _ ((List.dropLast_sublist _).subset hmem)
    rw [hlast] at hall
    exact absurd hall (by decide)

theorem eq_enhancement_of_skipped {stage : Stage} {reason : String} (h : Course refuses execution stages trace ok)
    (hx : (stage, .skipped reason) ∈ trace) : stage = .enhancement := by
  have hpassed : ∀ {t}, StageEnd.Passed t (.skipped reason) → t = .enhancement := by
    rintro t (heq | ⟨ht, -⟩)
    · cases heq
    · exact ht
  induction h with
  | finished => cases hx
  | passed hp _ _ ih =>
    rcases List.mem_cons.mp hx with heq | hx
    · cases heq
      exact hpassed hp
    · exact ih hx
  | stopped hs =>
    cases List.mem_singleton.mp hx
    cases hs with
    | refusedEnd hp _ _ => exact hpassed hp

theorem refuses_of_begun {stage : Stage} (h : Course refuses execution stages trace ok)
    (hx : (stage, .begun) ∈ trace) : refuses (.running execution stage) = true := by
  have hpassed : ∀ {t}, ¬StageEnd.Passed t .begun := by
    rintro t (heq | ⟨-, reason, heq⟩) <;> cases heq
  induction h with
  | finished => cases hx
  | passed hp _ _ ih =>
    rcases List.mem_cons.mp hx with heq | hx
    · cases heq
      exact absurd hp hpassed
    · exact ih hx
  | stopped hs =>
    cases List.mem_singleton.mp hx
    cases hs with
    | refusedStart h => exact h
    | refusedEnd hp _ _ => exact absurd hp hpassed

/-- A course that none of the stages stopped. -/
theorem of_ok (h : Course refuses execution stages trace true) :
    trace.map (·.1) = stages ∧ ∀ x ∈ trace, x.2.Passed x.1 := by
  generalize hok : true = ok at h
  induction h with
  | finished => exact ⟨rfl, by simp⟩
  | passed hpassed _ _ ih =>
    obtain ⟨hstages, hrest⟩ := ih hok
    refine ⟨by rw [List.map_cons, hstages], ?_⟩
    intro x hx
    rcases List.mem_cons.mp hx with rfl | hx
    · exact hpassed
    · exact hrest x hx
  | stopped _ => cases hok

/-- A run goes through if no record tells of a failure and none is refused, and only then. -/
theorem ok_iff (h : Course refuses execution stages trace ok) :
    ok = true ↔ ∀ p ∈ recordsOf execution trace, p.status ≠ .failed ∧ refuses p = false := by
  induction h with
  | finished => simp [recordsOf]
  | @passed stage how rest trace ok hpassed htaken _ ih =>
    have hstatus : ∀ p ∈ how.records execution stage, p.status ≠ .failed := by
      rcases hpassed with rfl | ⟨-, reason, rfl⟩ <;>
        simp [StageEnd.records, StageProgress.running, StageProgress.completed, StageProgress.skipped]
    rw [ih, recordsOf, recordsOf, List.flatMap_cons]
    refine ⟨fun hrest p hp => ?_, fun hall p hp => hall p (List.mem_append_right _ hp)⟩
    rcases List.mem_append.mp hp with hp | hp
    · exact ⟨hstatus p hp, htaken p hp⟩
    · exact hrest p hp
  | @stopped stage how rest hs =>
    refine iff_of_false Bool.false_ne_true fun hall => ?_
    rw [recordsOf, List.flatMap_singleton] at hall
    cases hs with
    | refusedStart h => exact absurd ((hall _ (List.mem_singleton_self _)).2.symm.trans h) Bool.false_ne_true
    | failedWork error => exact (hall (.failed execution stage error 0) (by simp [StageEnd.records])).1 rfl
    | refusedEnd _ hp h => exact absurd ((hall _ hp).2.symm.trans h) Bool.false_ne_true

end Course

namespace Auditor

variable {a : Auditor} {s : RunState} {stage : Stage}

theorem normalize_told (s : RunState) : RunState.Told s (normalize s).state [] := by
  let made : RunState := { s with data := { s.data with results := s.context.normalizeAll s.data.categorized } }
  have hmade : RunState.Told s made [] := { RunState.Told.refl s with }
  have hstate : (normalize s).state = (made.persist made.data.results).2 := by
    unfold normalize
    simp only
    split <;> rename_i heq <;> exact (congrArg Prod.snd heq).symm
  rw [hstate]
  exact hmade.trans (made.persist_told _)

theorem enhance_told (a : Auditor) (e : Enhancer) (s : RunState) : RunState.Told s (a.enhance e s).state [] := by
  let run := Enhancement.run a.config.assistant a.config.scheduler e s.data.results s.recovery
  let made : RunState := { s with data := { s.data with results := run.results }, recovery := run.recovery }
  have hmade : RunState.Told s made [] := { RunState.Told.refl s with }
  have hstate : (a.enhance e s).state = made ∨
      (a.enhance e s).state = (made.persist (run.results.filter (·.isAssisted))).2 := by
    unfold enhance
    simp only
    split
    · exact .inl rfl
    · refine .inr ?_
      split <;> rename_i heq <;> exact (congrArg Prod.snd heq).symm
  rcases hstate with hstate | hstate <;> rw [hstate]
  · exact hmade
  · exact hmade.trans (made.persist_told _)

/-- The work of a stage publishes nothing. -/
theorem work_told (a : Auditor) (stage : Stage) (s : RunState) : RunState.Told s (a.work stage s).state [] := by
  cases stage with
  | languageDetection | staticAnalysis | categorization => exact { RunState.Told.refl s with }
  | astParsing | graphConstruction | ruleExecution =>
    simp only [work, parse, buildGraph, runRules]
    split <;> exact { RunState.Told.refl s with }
  | normalization => exact normalize_told s
  | enhancement =>
    simp only [work]
    split
    · exact a.enhance_told _ s
    · exact .refl s

/-- Only the last stage may be left out. -/
theorem eq_enhancement_of_skipReason? {reason : String} (h : a.skipReason? stage = some reason) :
    stage = .enhancement := by
  cases stage with
  | enhancement => rfl
  | _ => cases h

/-- What a stage publishes, and whether the next one may begin. -/
theorem perform_told (a : Auditor) (stage : Stage) (s : RunState) :
    ∃ how : StageEnd, RunState.Told s (a.perform stage s).2 (how.records s.execution stage) ∧
      ((a.perform stage s).1 = none ∧ how.Passed stage ∧
          (∀ p ∈ how.records s.execution stage, Sink.refuses s.sink p = false) ∨
        (a.perform stage s).1.isSome = true ∧ StageEnd.Stops (Sink.refuses s.sink) s.execution stage how) := by
  unfold perform
  split
  case h_1 reason hskip =>
    obtain rfl := eq_enhancement_of_skipReason? hskip
    have hpassed : StageEnd.Passed .enhancement (.skipped reason) := .inr ⟨rfl, reason, rfl⟩
    obtain ⟨htold, hfault⟩ := s.publish_told (.skipped s.execution .enhancement reason)
    refine ⟨.skipped reason, htold, ?_⟩
    cases hrefused : Sink.refuses s.sink (.skipped s.execution .enhancement reason) with
    | false =>
      rw [hrefused] at hfault
      refine .inl ⟨Option.isNone_iff_eq_none.mp (by simpa using hfault), hpassed, ?_⟩
      intro p hp
      rw [List.mem_singleton.mp hp, hrefused]
    | true => exact .inr ⟨hfault.trans hrefused, .refusedEnd hpassed (List.mem_singleton_self _) hrefused⟩
  case h_2 =>
    obtain ⟨hbegun, hstart⟩ := s.publish_told (.running s.execution stage)
    unfold RunState.runStage
    split
    case h_1 f t hpublish =>
      rw [hpublish] at hbegun hstart
      exact ⟨.begun, hbegun, .inr ⟨rfl, .refusedStart hstart.symm⟩⟩
    case h_2 t hpublish =>
      rw [hpublish] at hbegun hstart
      have hworked := hbegun.trans (a.work_told stage t)
      rw [List.append_nil] at hworked
      simp only
      split
      case h_1 data hdata =>
        obtain ⟨hended, hend⟩ := (a.work stage t).state.publish_told (.completed t.execution stage 0)
        have htold := hworked.trans hended
        rw [hbegun.execution] at htold hend
        rw [hworked.refuses] at hend
        rw [hbegun.execution]
        split
        case h_1 f u hpublish' =>
          rw [hpublish'] at htold hend
          exact ⟨.completed, htold, .inr ⟨rfl, .refusedEnd (.inl rfl) (by simp [StageEnd.records]) hend.symm⟩⟩
        case h_2 u hpublish' =>
          rw [hpublish'] at htold hend
          refine ⟨.completed, { htold with }, .inl ⟨rfl, .inl rfl, ?_⟩⟩
          intro p hp
          rcases List.mem_cons.mp hp with rfl | hp
          · exact hstart.symm
          · rw [List.mem_singleton.mp hp]
            exact hend.symm
      case h_2 f hdata =>
        refine ⟨.failed ((f.atStage stage).stageAborted).message, ?_, .inr ⟨rfl, .failedWork _⟩⟩
        have hrecorded : RunState.Told s ((a.work stage t).state.record [(f.atStage stage).stageAborted])
            [.running s.execution stage] := { hworked with }
        have htold := hrecorded.trans (RunState.publish_told _
          (.failed s.execution stage ((f.atStage stage).stageAborted).message 0)).1
        rw [hrecorded.execution]
        exact htold

/-- What stages in a row publish. -/
theorem performAll_course (a : Auditor) (stages : List Stage) (s : RunState) :
    ∃ trace, RunState.Told s (a.performAll stages s).2 (recordsOf s.execution trace) ∧
      Course (Sink.refuses s.sink) s.execution stages trace (a.performAll stages s).1.isNone := by
  induction stages generalizing s with
  | nil => exact ⟨[], .refl s, .finished⟩
  | cons stage rest ih =>
    obtain ⟨how, htold, hends⟩ := a.perform_told stage s
    unfold performAll
    split
    case h_1 f t hperform =>
      rw [hperform] at htold hends
      rcases hends with ⟨hnone, -⟩ | ⟨-, hstops⟩
      · cases hnone
      · refine ⟨[(stage, how)], ?_, .stopped hstops⟩
        rw [recordsOf, List.flatMap_singleton]
        exact htold
    case h_2 t hperform =>
      rw [hperform] at htold hends
      rcases hends with ⟨-, hpassed, htaken⟩ | ⟨hsome, -⟩
      · obtain ⟨trace, hrest, hcourse⟩ := ih t
        rw [htold.execution] at hrest
        rw [htold.execution, htold.refuses] at hcourse
        exact ⟨(stage, how) :: trace, htold.trans hrest, .passed hpassed htaken hcourse⟩
      · cases hsome

end Auditor

/-- The progress of a run is a course through the stages in their order. All stages but the last one
reached are begun and completed; only the last of all may be left out, and a stage of which nothing but
its beginning is told is one whose beginning the sink refused. A run without an error, and no other,
has been through all stages, with no record that tells of a failure and none that was refused. The
listener is told exactly what is listed. -/
theorem progress_courses_through_stages (a : Auditor) (st : AuditState) (project : String)
    (files : List SourceFile) :
    let report := (a.run st project files).1
    ∃ trace : List (Stage × StageEnd),
      report.progress = (trace.flatMap fun x => x.2.records report.execution x.1) ∧
      trace.map (·.1) <+: Stage.all ∧
      (∀ x ∈ trace.dropLast, x.2 = .completed) ∧
      (∀ stage reason, (stage, .skipped reason) ∈ trace → stage = .enhancement) ∧
      (∀ stage, (stage, .begun) ∈ trace → Sink.refuses st.sink (.running report.execution stage) = true) ∧
      (report.isSuccess = true ↔ report.error = none) ∧
      (report.isSuccess = true → trace.map (·.1) = Stage.all ∧
        ∀ x ∈ trace, x.2 = .completed ∨ x.1 = .enhancement ∧ ∃ reason, x.2 = .skipped reason) ∧
      (report.isSuccess = true ↔
        ∀ p ∈ report.progress, p.status ≠ .failed ∧ Sink.refuses st.sink p = false) ∧
      (a.run st project files).2.channel = st.channel.map (· ++ report.progress) := by
  intro report
  obtain ⟨trace, htold, hcourse⟩ := a.performAll_course Stage.all (a.begin st project files)
  have hexecution : report.execution = (a.begin st project files).execution := htold.execution
  rw [← hexecution] at htold hcourse
  have hprogress : report.progress = recordsOf report.execution trace := htold.records
  have hsuccess : report.isSuccess = (a.performAll Stage.all (a.begin st project files)).1.isNone :=
    Option.isNone_map
  have hchannel : (a.run st project files).2.channel = st.channel.map (· ++ report.progress) := by
    rw [hprogress]
    exact htold.channel
  rw [← hsuccess] at hcourse
  refine ⟨trace, hprogress, hcourse.stages_prefix, fun x hx => hcourse.completed_of_mem_dropLast hx,
    fun stage reason hx => hcourse.eq_enhancement_of_skipped hx, fun stage hx => ?_, ?_, fun hok => ?_, ?_, hchannel⟩
  · exact hcourse.refuses_of_begun hx
  · exact Option.isNone_iff_eq_none
  · rw [hok] at hcourse
    exact hcourse.of_ok
  · rw [hprogress]
    exact hcourse.ok_iff

end CodeAudit
