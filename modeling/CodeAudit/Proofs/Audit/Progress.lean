import CodeAudit.Proofs.Audit.Stages
import Mathlib.Data.List.Basic

/-! How far a run has come and what it has by then. Two things carry the proofs: what is kept once a
number of stages has completed, and what a state that is ready for the next stage has besides. -/
namespace CodeAudit

namespace Stage

theorem number_pos (s : Stage) : 0 < s.number := Nat.succ_pos _

theorem eq_of_number_eq {s t : Stage} (h : s.number = t.number) : s = t :=
  (List.idxOf_inj (mem_all s)).mp (Nat.succ.inj h)

theorem number_ne {s t : Stage} (h : s ≠ t) : s.number ≠ t.number := fun heq => h (eq_of_number_eq heq)

/-- The number of a stage tells how many stages stand before it. -/
theorem number_of_append {s : Stage} {before after : List Stage} (h : before ++ s :: after = all) :
    s.number = before.length + 1 := by
  have hnodup : (before ++ s :: after).Nodup := by rw [h]; decide
  have hs : s ∉ before := fun hmem =>
    (List.nodup_append.mp hnodup).2.2 s hmem s List.mem_cons_self rfl
  rw [number, ← h, List.idxOf_append_of_notMem hs, List.idxOf_cons_self, Nat.add_zero]

end Stage

namespace RunState

variable {s s' : RunState}

theorem usable_eq (s : RunState) :
    s.usable =
      (if .ruleExecution ∈ s.recovery.failedStages then [] else s.data.violations,
       if .staticAnalysis ∈ s.recovery.failedStages then [] else s.data.findings) := by
  simp only [usable, List.contains_iff_mem]

/-- Faults of the stages that make no findings leave the usable ones as they are. -/
theorem usable_of_recordAll {faults : List Fault} {stage : Stage}
    (hviolations : s'.data.violations = s.data.violations) (hfindings : s'.data.findings = s.data.findings)
    (hrecovery : s'.recovery = s.recovery.recordAll faults) (hfaults : ∀ f ∈ faults, f.stage = some stage)
    (hrules : Stage.ruleExecution ≠ stage) (hstatic : Stage.staticAnalysis ≠ stage) :
    s'.usable = s.usable := by
  simp only [usable_eq, hrecovery, hviolations, hfindings, Recovery.mem_failedStages_of_other hfaults hrules,
    Recovery.mem_failedStages_of_other hfaults hstatic]

theorem identity_of_context {project execution : String} (hcontext : s'.context = s.context)
    (h : s.project = project ∧ s.execution = execution) : s'.project = project ∧ s'.execution = execution :=
  ⟨(congrArg RunContext.project hcontext).trans h.1, (congrArg RunContext.execution hcontext).trans h.2⟩

theorem salvage_congr (hcontext : s'.context = s.context) (husable : s'.usable = s.usable) :
    s'.salvage = s.salvage := by
  simp only [salvage, hcontext, husable]

theorem salvage_unassisted (s : RunState) : s.salvage.map NormalizedResult.unassisted = s.salvage :=
  s.context.normalizeAll_unassisted _

end RunState

namespace Auditor

/-- What the first two stages make of the files. -/
def readData (a : Auditor) (st : AuditState) (files : List SourceFile) : RunData :=
  let kept := files.filter a.keeps
  let d : RunData := { files := kept, mappings := kept.map LanguageMapping.ofFile }
  { d with trees := (parseAll a.parser a.config.enableCaching st.cache (parseInputs d)).1 }

/-- The analyses of a run, with the findings that each of them is about to give. -/
def analysesOf (a : Auditor) (st : AuditState) (files : List SourceFile) : List (String × List Finding) :=
  a.analyses ⟨(a.readData st files).files, (a.readData st files).trees⟩

/-- The findings of the analyses that have given some. -/
def staticFindings (a : Auditor) (st : AuditState) (files : List SourceFile) : List Finding :=
  (a.runAnalyses a.fresh (a.analysesOf st files)).1.mergeSort findingLe

/-- The faults that the analyses record. -/
def analysisFaults (a : Auditor) (st : AuditState) (files : List SourceFile) : List Fault :=
  (a.runAnalyses a.fresh (a.analysesOf st files)).2.log

/-- The violations of the rules, unless the rules break down. -/
def ruleViolations (a : Auditor) (st : AuditState) (files : List SourceFile) : Except Fault (List Violation) :=
  (a.ruleRuns (a.readData st files)).map fun run => Violation.sortByFile (run.1.violations ++ run.2.violations)

/-- What the results of a run have in common. -/
def contextOf (a : Auditor) (st : AuditState) (project : String) (files : List SourceFile) : RunContext :=
  ⟨project, s!"run-{st.runs}", (a.readData st files).mappings⟩

/-- The data of a run once so many stages have completed. -/
structure Produced (a : Auditor) (st : AuditState) (files : List SourceFile) (k : Nat) (d : RunData) : Prop where
  sources : d.files = (a.readData st files).files
  mappings : d.mappings = if Stage.languageDetection.number ≤ k then (a.readData st files).mappings else []
  trees : d.trees = if Stage.astParsing.number ≤ k then (a.readData st files).trees else []
  findings : d.findings = if Stage.staticAnalysis.number ≤ k then a.staticFindings st files else []
  violations : if Stage.ruleExecution.number ≤ k then a.ruleViolations st files = .ok d.violations
    else d.violations = []

/-- Which stages the log of a run calls failed once so many have completed: of those that make
findings, only analyses can be among them. -/
structure Logged (a : Auditor) (st : AuditState) (files : List SourceFile) (k : Nat) (r : Recovery) : Prop where
  retries : r.maxRetries = a.config.scheduler.maxRetries
  analyses : Stage.staticAnalysis.number ≤ k →
    (.staticAnalysis ∈ r.failedStages ↔ ∃ f ∈ a.analysisFaults st files, f.failsStage = true)
  rules : Stage.ruleExecution.number ≤ k → .ruleExecution ∉ r.failedStages

/-- What a run has once so many stages have completed. It stays when the next stage stops the run. -/
structure Kept (a : Auditor) (st : AuditState) (project : String) (files : List SourceFile) (k : Nat)
    (s : RunState) : Prop where
  identity : s.project = project ∧ s.execution = s!"run-{st.runs}"
  produced : Produced a st files k s.data
  logged : Logged a st files k s.recovery
  results : s.data.results = [] ∨ s.data.results.map NormalizedResult.unassisted = s.salvage

/-- A run that is about to begin its next stage. -/
structure Ready (a : Auditor) (st : AuditState) (project : String) (files : List SourceFile) (k : Nat)
    (s : RunState) : Prop extends Kept a st project files k s where
  cache : k < Stage.astParsing.number → s.cache = st.cache
  faults : ∀ f ∈ s.recovery.log, ∃ t : Stage, f.stage = some t ∧ t.number ≤ k
  categorized : Stage.categorization.number ≤ k → s.data.categorized = categorizeAll s.usable.1 s.usable.2
  normalized : if Stage.normalization.number ≤ k
    then s.data.results.map NormalizedResult.unassisted = s.salvage else s.data.results = []

variable {a : Auditor} {st : AuditState} {project : String} {files : List SourceFile} {k : Nat}
  {stage : Stage} {s t s' : RunState} {r : Recovery} {d : RunData} {faults : List Fault}

theorem ready_begin (a : Auditor) (st : AuditState) (project : String) (files : List SourceFile) :
    Ready a st project files 0 (a.begin st project files) where
  identity := ⟨rfl, rfl⟩
  produced := ⟨rfl, rfl, rfl, rfl, rfl⟩
  logged := ⟨rfl, fun h => absurd h (by decide), fun h => absurd h (by decide)⟩
  results := .inl rfl
  cache _ := rfl
  faults f hf := by simp [begin] at hf
  categorized h := absurd h (by decide)
  normalized := rfl

/-- Records and sink are of no account for what comes next. -/
theorem Ready.noted (h : Ready a st project files k s) (news : List StageProgress) (sink : Option Sink) :
    Ready a st project files k (s.noted news sink []) := by
  have hs : s.noted news sink [] =
      { s with records := s.records ++ news, channel := s.channel.map (· ++ news), sink := sink } := by
    simp only [RunState.noted, Recovery.recordAll_nil]
  rw [hs]
  exact { h with }

/-- The next stage may record what it likes: the stages before it are called failed as before. -/
theorem Logged.recordAll (h : Logged a st files k r) (hk : k < stage.number)
    (hfaults : ∀ f ∈ faults, f.stage = some stage) : Logged a st files k (r.recordAll faults) where
  retries := h.retries
  analyses hle := by
    rw [Recovery.mem_failedStages_of_other hfaults, h.analyses hle]
    rintro rfl
    omega
  rules hle := by
    rw [Recovery.mem_failedStages_of_other hfaults]
    · exact h.rules hle
    · rintro rfl
      omega

/-- Without a fault of a stage in the log it is not called failed. -/
theorem notMem_failedStages (h : ∀ f ∈ r.log, ∃ t : Stage, f.stage = some t ∧ t.number ≤ k)
    (hk : k < stage.number) : stage ∉ r.failedStages := by
  rw [Recovery.mem_failedStages_iff]
  rintro ⟨f, hf, -, hstage⟩
  obtain ⟨u, hu, hle⟩ := h f hf
  rw [hstage, Option.some.injEq] at hu
  subst u
  omega

theorem analysisFaults_eq : a.analysisFaults st files = (a.analysesOf st files).flatMap a.faultsOf := by
  rw [analysisFaults, runAnalyses_eq rfl]
  rfl

theorem stage_of_mem_analysisFaults {f : Fault} (hf : f ∈ a.analysisFaults st files) :
    f.stage = some .staticAnalysis := by
  rw [analysisFaults_eq] at hf
  obtain ⟨x, -, hf⟩ := List.mem_flatMap.mp hf
  exact stage_of_mem_faultsOf hf

/-- What the log says after a stage that completed. -/
theorem Ready.logged_completed (h : Ready a st project files (stage.number - 1) s) (hw : Worked stage s t)
    (hanalyses : stage = .staticAnalysis → t.recovery = s.recovery.recordAll (a.analysisFaults st files)) :
    Logged a st files stage.number t.recovery := by
  obtain ⟨faults, hrecovery, hfaults, hfails⟩ := hw.recovery
  have hpos := stage.number_pos
  refine ⟨by rw [hrecovery]; exact h.logged.retries, ?_, ?_⟩
  · intro hle
    by_cases hstage : stage = .staticAnalysis
    · -- the log had no fault of this stage yet, so that all there are come from the analyses
      have hbefore : Stage.staticAnalysis ∉ s.recovery.failedStages :=
        notMem_failedStages h.faults (by rw [hstage]; decide)
      rw [hanalyses hstage, Recovery.mem_failedStages_recordAll]
      constructor
      · rintro (hs | ⟨f, hf, hf', -⟩)
        · exact absurd hs hbefore
        · exact ⟨f, hf, hf'⟩
      · rintro ⟨f, hf, hf'⟩
        exact .inr ⟨f, hf, hf', stage_of_mem_analysisFaults hf⟩
    · have hne := Stage.number_ne hstage
      rw [hrecovery, Recovery.mem_failedStages_of_other hfaults (Ne.symm hstage)]
      exact h.logged.analyses (by omega)
  · intro hle
    by_cases hstage : stage = .ruleExecution
    · rw [hrecovery, Recovery.mem_failedStages_recordAll]
      rintro (hs | ⟨f, hf, hf', -⟩)
      · exact notMem_failedStages h.faults (by rw [hstage]; decide) hs
      · rw [hfails (by rw [hstage]; decide) f hf] at hf'
        exact Bool.false_ne_true hf'
    · have hne := Stage.number_ne hstage
      rw [hrecovery, Recovery.mem_failedStages_of_other hfaults (Ne.symm hstage)]
      exact h.logged.rules (by omega)

theorem Ready.faults_completed (h : Ready a st project files (stage.number - 1) s) (hw : Worked stage s t) :
    ∀ f ∈ t.recovery.log, ∃ u : Stage, f.stage = some u ∧ u.number ≤ stage.number := by
  obtain ⟨faults, hrecovery, hfaults, -⟩ := hw.recovery
  intro f hf
  rw [hrecovery, Recovery.recordAll, List.mem_append] at hf
  rcases hf with hf | hf
  · obtain ⟨u, hu, hle⟩ := h.faults f hf
    exact ⟨u, hu, by omega⟩
  · exact ⟨stage, hfaults f hf, Nat.le_refl _⟩

theorem parseInputs_congr {d d' : RunData} (hfiles : d.files = d'.files) (hmappings : d.mappings = d'.mappings) :
    parseInputs d = parseInputs d' := by
  simp only [parseInputs, hfiles, hmappings]

theorem ruleRuns_congr {d d' : RunData} (hfiles : d.files = d'.files) (hmappings : d.mappings = d'.mappings)
    (htrees : d.trees = d'.trees) : a.ruleRuns d = a.ruleRuns d' := by
  simp only [ruleRuns, hfiles, hmappings, htrees]

/-- The last two stages hand over the data as they have left them. -/
theorem work_outcome_late (hstage : Stage.normalization.number ≤ stage.number)
    (hd : (a.work stage s).outcome = .ok d) : d = (a.work stage s).state.data := by
  cases stage with
  | normalization =>
    simp only [work, normalize] at hd ⊢
    split at hd
    · cases hd
      rfl
    · cases hd
  | enhancement =>
    cases he : a.enhancer with
    | none =>
      simp only [work, he] at hd ⊢
      cases hd
      rfl
    | some e =>
      simp only [work, he, enhance] at hd ⊢
      split at hd
      case isTrue h0 =>
        rw [if_pos h0]
        cases hd
        rfl
      case isFalse h0 =>
        rw [if_neg h0]
        split at hd
        · cases hd
          rfl
        · cases hd
  | _ => exact absurd hstage (by decide)

/-- The other stages hand over the results as they were. -/
theorem work_outcome_early (hstage : stage.number < Stage.normalization.number)
    (hd : (a.work stage s).outcome = .ok d) : d.results = s.data.results := by
  cases stage with
  | languageDetection | categorization =>
    cases hd
    rfl
  | astParsing | graphConstruction | ruleExecution =>
    simp only [work, parse, buildGraph, runRules] at hd
    split at hd
    · cases hd
    · cases hd
      rfl
  | staticAnalysis =>
    simp only [work, analyze] at hd
    cases hd
    rfl
  | normalization | enhancement => exact absurd hstage (by decide)

/-- The analyses work on what the first two stages have made. -/
theorem Ready.analyze_eq (h : Ready a st project files (Stage.staticAnalysis.number - 1) s) :
    a.analyze s =
      ⟨{ s with recovery := s.recovery.recordAll (a.analysisFaults st files) },
       .ok { s.data with findings := a.staticFindings st files }⟩ := by
  have htrees : s.data.trees = (a.readData st files).trees := h.produced.trees
  rw [analysisFaults_eq, staticFindings, analyze, h.produced.sources, htrees, ← analysesOf,
    runAnalyses_eq h.logged.retries, runAnalyses_eq rfl]

/-- The data after a stage that completed. -/
theorem Ready.produced_completed (h : Ready a st project files (stage.number - 1) s)
    (hd : (a.work stage s).outcome = .ok d) : Produced a st files stage.number d := by
  have hp := h.produced
  have hw := work_worked (a := a) stage h.logged.retries
  cases stage with
  | languageDetection =>
    cases hd
    refine { hp with mappings := ?_ }
    simp only [hp.sources]
    rfl
  | astParsing =>
    simp only [work, parse] at hd
    split at hd
    · cases hd
    · cases hd
      refine { hp with trees := ?_ }
      have hinputs : parseInputs s.data = parseInputs
          { files := (a.readData st files).files, mappings := (a.readData st files).mappings } :=
        parseInputs_congr hp.sources hp.mappings
      simp only [hinputs, h.cache (by decide)]
      rfl
  | graphConstruction =>
    simp only [work, buildGraph] at hd
    split at hd
    · cases hd
    · cases hd
      exact { hp with }
  | staticAnalysis =>
    rw [work, h.analyze_eq] at hd
    cases hd
    exact { hp with findings := rfl }
  | ruleExecution =>
    have hruns : a.ruleRuns s.data = a.ruleRuns (a.readData st files) :=
      ruleRuns_congr hp.sources hp.mappings hp.trees
    simp only [work, runRules, hruns] at hd
    split at hd
    · cases hd
    · rename_i onTrees onText hok
      cases hd
      refine { hp with violations := ?_ }
      rw [if_pos (by decide), ruleViolations, hok]
      rfl
  | categorization =>
    cases hd
    exact { hp with }
  | normalization | enhancement =>
    obtain ⟨results, hdata⟩ := hw.data
    rw [work_outcome_late (by decide) hd, hdata]
    exact { hp with }

/-- From normalization on, the work leaves results for all that is usable, and none before. -/
theorem Ready.work_results (h : Ready a st project files (stage.number - 1) s) :
    if Stage.normalization.number ≤ stage.number
    then (a.work stage s).state.data.results.map NormalizedResult.unassisted = s.salvage
    else (a.work stage s).state.data.results = [] := by
  by_cases hstage : stage = .normalization
  · subst stage
    obtain ⟨sink, hstate⟩ := normalize_state s
    rw [if_pos (Nat.le_refl _)]
    simp only [work, hstate, h.categorized (by decide)]
    exact s.salvage_unassisted
  · have hne := Stage.number_ne hstage
    have hresults := (work_worked (a := a) stage h.logged.retries).results hstage
    have hnormalized := h.normalized
    split
    case isTrue hle =>
      rw [if_pos (by omega)] at hnormalized
      exact hresults.trans hnormalized
    case isFalse hlt =>
      rw [if_neg (by omega)] at hnormalized
      rw [hnormalized, List.map_nil, List.map_eq_nil_iff] at hresults
      exact hresults

/-- The faults of the last stages do not touch what is usable. -/
theorem Worked.salvage_eq (hw : Worked stage s t) (hstage : Stage.categorization.number ≤ stage.number) :
    t.usable = s.usable ∧ t.salvage = s.salvage := by
  obtain ⟨results, hdata⟩ := hw.data
  obtain ⟨faults, hrecovery, hfaults, -⟩ := hw.recovery
  have husable : t.usable = s.usable := by
    refine RunState.usable_of_recordAll (by rw [hdata]) (by rw [hdata]) hrecovery hfaults ?_ ?_ <;>
      rintro rfl <;> exact absurd hstage (by decide)
  exact ⟨husable, RunState.salvage_congr hw.context husable⟩

/-- A stage that completes makes the run ready for the next one. -/
theorem Ready.completed (h : Ready a st project files (stage.number - 1) s)
    (hd : (a.work stage s).outcome = .ok d) :
    Ready a st project files stage.number { (a.work stage s).state with data := d } := by
  have hw := work_worked (a := a) stage h.logged.retries
  have hlogged : Logged a st files stage.number (a.work stage s).state.recovery := by
    refine h.logged_completed hw ?_
    rintro rfl
    rw [work, h.analyze_eq]
  have hfaults := h.faults_completed hw
  have hcategorized : Stage.categorization.number ≤ stage.number →
      let t := { (a.work stage s).state with data := d }
      d.categorized = categorizeAll t.usable.1 t.usable.2 := by
    intro hle
    by_cases hstage : stage = .categorization
    · subst stage
      cases hd
      rfl
    · have hne := Stage.number_ne hstage
      obtain ⟨results, hdata⟩ := hw.data
      obtain rfl := work_outcome_late (Nat.lt_of_le_of_ne hle (Ne.symm hne)) hd
      rw [hdata, h.categorized (by omega)]
      simp only [← hdata, (hw.salvage_eq hle).1]
  have hnormalized : if Stage.normalization.number ≤ stage.number
      then d.results.map NormalizedResult.unassisted =
        RunState.salvage { (a.work stage s).state with data := d } else d.results = [] := by
    split
    case isTrue hle =>
      have hresults := h.work_results
      rw [if_pos hle] at hresults
      obtain rfl := work_outcome_late hle hd
      rw [hresults]
      exact (hw.salvage_eq (Nat.le_trans (by decide) hle)).2.symm
    case isFalse hlt =>
      have hbefore := h.normalized
      rw [if_neg (by omega)] at hbefore
      rw [work_outcome_early (by omega) hd, hbefore]
  refine
    { identity := ?_
      produced := h.produced_completed hd
      logged := hlogged
      results := ?_
      cache := ?_
      faults := hfaults
      categorized := hcategorized
      normalized := hnormalized }
  · have hidentity := RunState.identity_of_context hw.context h.identity
    exact hidentity
  · split at hnormalized
    · exact .inr hnormalized
    · exact .inl hnormalized
  · intro hlt
    have hstage : stage = .languageDetection :=
      Stage.eq_of_number_eq (Nat.le_antisymm (Nat.le_of_lt_succ hlt) stage.number_pos)
    subst stage
    exact h.cache (by decide)

/-- A run that a fault has stopped in a stage. -/
structure Halted (a : Auditor) (st : AuditState) (project : String) (files : List SourceFile) (stage : Stage)
    (f : Fault) (s : RunState) : Prop where
  kept : Kept a st project files (stage.number - 1) s
  last : s.records.getLast?.map (·.stage) = some stage
  recorded : f ∈ s.recovery.log
  stage : f.stage = some stage
  fails : f.failsStage = true

/-- A stage that stops the run, be it before its work or after it, takes nothing away. -/
theorem Ready.halted {f : Fault} (h : Ready a st project files (stage.number - 1) s) (hw : Worked stage s t)
    (hresults : t.data.results = [] ∨ Stage.normalization.number ≤ stage.number ∧
      t.data.results.map NormalizedResult.unassisted = s.salvage)
    (hs : RunState.Stopped stage f t s') : Halted a st project files stage f s' := by
  obtain ⟨⟨news, sink, faults, rfl, hlast, hf, hfaults⟩, hfails⟩ := hs
  obtain ⟨results, hdata⟩ := hw.data
  obtain ⟨worked, hrecovery, hworked, -⟩ := hw.recovery
  have hpos := stage.number_pos
  have hidentity := RunState.identity_of_context hw.context h.identity
  refine ⟨⟨hidentity, ?_, ?_, ?_⟩, ?_, ?_, hfaults f hf, hfails⟩
  · rw [RunState.noted_data, hdata]
    exact { h.produced with }
  · rw [RunState.noted_recovery, hrecovery]
    exact (h.logged.recordAll (by omega) hworked).recordAll (by omega) hfaults
  · rcases hresults with hresults | ⟨hle, hresults⟩
    · exact .inl hresults
    · have hlater : Stage.categorization.number ≤ stage.number := Nat.le_trans (by decide) hle
      have husable : (t.noted news sink faults).usable = t.usable := by
        refine RunState.usable_of_recordAll rfl rfl rfl hfaults ?_ ?_ <;>
          rintro rfl <;> exact absurd hlater (by decide)
      have hsalvage : (t.noted news sink faults).salvage = t.salvage := RunState.salvage_congr rfl husable
      refine .inr ?_
      rw [RunState.noted_data, hresults, hsalvage, (hw.salvage_eq hlater).2]
  · obtain ⟨p, hp, hstage⟩ := Option.map_eq_some_iff.mp hlast
    rw [RunState.noted, List.getLast?_append, hp, Option.some_or, Option.map_some, hstage]
  · exact List.mem_append_right _ hf

/-- Without the last stage a run is as ready as with it. -/
theorem Ready.skipped (h : Ready a st project files (Stage.enhancement.number - 1) s) :
    Ready a st project files Stage.enhancement.number s where
  identity := h.identity
  produced := { h.produced with }
  logged := ⟨h.logged.retries, fun _ => h.logged.analyses (by decide), fun _ => h.logged.rules (by decide)⟩
  results := h.results
  cache hlt := absurd hlt (by decide)
  faults f hf := by
    obtain ⟨u, hu, hle⟩ := h.faults f hf
    exact ⟨u, hu, Nat.le_trans hle (by decide)⟩
  categorized _ := h.categorized (by decide)
  normalized := h.normalized

/-- A stage either leaves the run ready for the next one or stops it. -/
theorem Ready.perform (h : Ready a st project files (stage.number - 1) s) :
    (∃ s', a.perform stage s = (none, s') ∧ Ready a st project files stage.number s') ∨
      ∃ f s', a.perform stage s = (some f, s') ∧ Halted a st project files stage f s' := by
  -- a stop before the work
  have hstart : ∀ {f s'}, RunState.Stopped stage f s s' → Halted a st project files stage f s' := by
    intro f s' hs
    refine h.halted (.refl stage s) ?_ hs
    have hnormalized := h.normalized
    split at hnormalized
    case isTrue hle => exact .inr ⟨by omega, hnormalized⟩
    case isFalse => exact .inl hnormalized
  unfold Auditor.perform
  split
  case h_1 reason hskip =>
    obtain rfl : stage = .enhancement := by
      cases stage with
      | enhancement => rfl
      | _ => cases hskip
    obtain ⟨sink, hpublish⟩ | ⟨f, hstage, hfails, hpublish⟩ :=
      s.publish_cases (.skipped s.execution .enhancement reason)
    · exact .inl ⟨_, hpublish, h.skipped.noted _ sink⟩
    · exact .inr ⟨f, _, hpublish, hstart (RunState.stopped_of_refused hstage hfails)⟩
  case h_2 =>
    obtain ⟨news, news', sink, sink', d, hd, hrun⟩ | ⟨f, s', hrun, hs | ⟨news, sink, hs⟩⟩ :=
      s.runStage_cases stage (a.work stage)
    · exact .inl ⟨_, hrun, ((h.noted news sink).completed hd).noted news' sink'⟩
    · exact .inr ⟨f, s', hrun, hstart hs⟩
    · have hready := h.noted news sink
      refine .inr ⟨f, s', hrun, hready.halted (work_worked stage hready.logged.retries) ?_ hs⟩
      have hresults := hready.work_results
      split at hresults
      case isTrue hle => exact .inr ⟨hle, hresults⟩
      case isFalse => exact .inl hresults

/-- Some stages in a row, whatever stands before and after them. -/
theorem Ready.performAll {before stages after : List Stage} (h : Ready a st project files before.length s)
    (hall : before ++ stages ++ after = Stage.all) :
    (∃ s', a.performAll stages s = (none, s') ∧ Ready a st project files (before ++ stages).length s') ∨
      ∃ stage f s', a.performAll stages s = (some f, s') ∧ Halted a st project files stage f s' := by
  induction stages generalizing before s with
  | nil =>
    rw [List.append_nil]
    exact .inl ⟨s, rfl, h⟩
  | cons stage rest ih =>
    have hnumber : stage.number = before.length + 1 := by
      rw [List.append_assoc] at hall
      exact Stage.number_of_append hall
    have hready : Ready a st project files (stage.number - 1) s := by
      rw [hnumber]
      exact h
    have hassoc : before ++ stage :: rest = before ++ [stage] ++ rest := by
      rw [List.append_assoc]
      rfl
    obtain ⟨t, hperform, ht⟩ | ⟨f, t, hperform, ht⟩ := hready.perform
    · have hlength : stage.number = (before ++ [stage]).length := by rw [hnumber, List.length_append]; rfl
      rw [hlength] at ht
      rw [hassoc] at hall ⊢
      rw [Auditor.performAll, hperform]
      exact ih ht hall
    · refine .inr ⟨stage, f, t, ?_, ht⟩
      rw [Auditor.performAll, hperform]

/-- A run that kept what so many stages made has findings and violations to salvage accordingly. -/
theorem Kept.salvage_eq (h : Kept a st project files k s) :
    s.salvage = s.context.normalizeAll (categorizeAll s.data.violations
      (if .staticAnalysis ∈ s.recovery.failedStages then [] else s.data.findings)) := by
  have hviolations : (if .ruleExecution ∈ s.recovery.failedStages then [] else s.data.violations) =
      s.data.violations := by
    have hproduced := h.produced.violations
    split at hproduced
    case isTrue hle => rw [if_neg (h.logged.rules hle)]
    case isFalse => rw [hproduced, ite_self]
  rw [RunState.salvage, RunState.usable_eq, hviolations]

theorem Kept.context_eq (h : Kept a st project files k s) (hk : Stage.languageDetection.number ≤ k) :
    s.context = a.contextOf st project files := by
  have hmappings := h.produced.mappings
  rw [if_pos hk] at hmappings
  rw [RunState.context, hmappings, h.identity.1, h.identity.2]
  rfl

/-- The results of a stopped run, the texts of an assistant apart, are what can be salvaged. -/
theorem Kept.finalResults_eq (h : Kept a st project files k s) (f : Fault) :
    (finalResults (some f) s).map NormalizedResult.unassisted = s.salvage := by
  unfold finalResults
  split
  case isTrue => exact s.salvage_unassisted
  case isFalse hne =>
    rcases h.results with hempty | hresults
    · exact absurd (by simp [hempty]) hne
    · exact hresults

/-- A run succeeds with all stages done, or a fault stops it in one of them. -/
theorem run_cases (a : Auditor) (st : AuditState) (project : String) (files : List SourceFile) :
    let report := (a.run st project files).1
    ∃ s, report.progress = s.records ∧ report.faults = s.recovery.log ∧
      ((report.error = none ∧ report.results = s.data.results ∧
          Ready a st project files Stage.all.length s) ∨
        ∃ stage f, report.error = some f.text ∧ report.results = finalResults (some f) s ∧
          Halted a st project files stage f s) := by
  intro report
  have hbegin : Ready a st project files ([] : List Stage).length (a.begin st project files) :=
    ready_begin a st project files
  have hreport : ∀ {fault s}, a.performAll Stage.all (a.begin st project files) = (fault, s) →
      report.progress = s.records ∧ report.faults = s.recovery.log ∧
        report.error = fault.map (·.text) ∧ report.results = finalResults fault s := by
    intro fault s hrun
    simp only [report, run, hrun, and_self]
  obtain ⟨s, hrun, hs⟩ | ⟨stage, f, s, hrun, hs⟩ := hbegin.performAll (List.append_nil Stage.all)
  · obtain ⟨hprogress, hfaults, herror, hresults⟩ := hreport hrun
    exact ⟨s, hprogress, hfaults, .inl ⟨herror, hresults, hs⟩⟩
  · obtain ⟨hprogress, hfaults, herror, hresults⟩ := hreport hrun
    exact ⟨s, hprogress, hfaults, .inr ⟨stage, f, herror, hresults, hs⟩⟩

end Auditor

namespace AuditReport

/-- The stage of the last record, for a run that did not succeed. -/
def stoppedIn (r : AuditReport) : Option Stage :=
  if r.isSuccess then none else r.progress.getLast?.map (·.stage)

/-- The run did not stop in this stage, nor before it. -/
def completes (r : AuditReport) (stage : Stage) : Bool := r.stoppedIn.all fun t => stage.number < t.number

end AuditReport

namespace Auditor

variable {a : Auditor} {st : AuditState} {project : String} {files : List SourceFile}

theorem Halted.stoppedIn_eq {stage : Stage} {f : Fault} {s : RunState} {report : AuditReport}
    (h : Halted a st project files stage f s) (herror : report.error = some f.text)
    (hprogress : report.progress = s.records) : report.stoppedIn = some stage := by
  rw [AuditReport.stoppedIn, AuditReport.isSuccess, herror, Option.isNone_some, if_neg Bool.false_ne_true,
    hprogress, h.last]

/-- Whether it succeeds or not, a run returns what the completed stages have left to be used. -/
theorem run_kept (a : Auditor) (st : AuditState) (project : String) (files : List SourceFile) :
    let report := (a.run st project files).1
    ∃ k s, Kept a st project files k s ∧ report.faults = s.recovery.log ∧
      report.results.map NormalizedResult.unassisted = s.salvage ∧
      ∀ stage, report.completes stage = true ↔ stage.number ≤ k := by
  intro report
  obtain ⟨s, hprogress, hfaults, ⟨herror, hresults, hs⟩ | ⟨stage, f, herror, hresults, hs⟩⟩ :=
    a.run_cases st project files
  · have hstopped : report.stoppedIn = none := by
      rw [AuditReport.stoppedIn, AuditReport.isSuccess, herror]
      rfl
    refine ⟨Stage.all.length, s, hs.toKept, hfaults, ?_, ?_⟩
    · rw [hresults]
      exact hs.normalized
    · intro stage
      refine iff_of_true ?_ (List.idxOf_lt_length_of_mem stage.mem_all)
      rw [AuditReport.completes, hstopped]
      rfl
  · have hstopped : report.stoppedIn = some stage := hs.stoppedIn_eq herror hprogress
    refine ⟨stage.number - 1, s, hs.kept, hfaults, ?_, ?_⟩
    · rw [hresults]
      exact hs.kept.finalResults_eq f
    · intro u
      have hpos := stage.number_pos
      rw [AuditReport.completes, hstopped, Option.all_some, decide_eq_true_iff]
      omega

end Auditor
end CodeAudit
