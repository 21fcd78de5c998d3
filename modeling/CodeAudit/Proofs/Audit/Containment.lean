import CodeAudit.Proofs.Audit.Records

/-! A run that fails still returns what its completed stages have found: nothing up to the analyses,
their findings while the rules run, violations and findings afterwards. -/
namespace CodeAudit

namespace Auditor

variable {a : Auditor} {st : AuditState} {project : String} {files : List SourceFile} {stage : Stage}
  {f : Fault} {s : RunState}

/-- Up to the analyses there is nothing to salvage. -/
theorem Halted.salvage_early (h : Halted a st project files stage f s)
    (hstage : stage.number ≤ Stage.staticAnalysis.number) : s.salvage = [] := by
  have hpos := stage.number_pos
  have horder : Stage.staticAnalysis.number < Stage.ruleExecution.number := by decide
  have hfindings := h.kept.produced.findings
  have hviolations := h.kept.produced.violations
  rw [if_neg (by omega)] at hfindings
  rw [if_neg (by omega)] at hviolations
  rw [h.kept.salvage_eq, hfindings, hviolations, ite_self]
  rfl

/-- Past the analyses, their findings are there unless a fault of theirs fails the stage. -/
theorem Halted.salvage_late (h : Halted a st project files stage f s)
    (hstage : Stage.staticAnalysis.number < stage.number)
    (hclean : ∀ g ∈ s.recovery.log, g.stage = some .staticAnalysis → g.failsStage = false) :
    s.salvage = (a.contextOf st project files).normalizeAll
      (categorizeAll s.data.violations (a.staticFindings st files)) := by
  have hfindings := h.kept.produced.findings
  rw [if_pos (by omega)] at hfindings
  have hnot : Stage.staticAnalysis ∉ s.recovery.failedStages := by
    rw [Recovery.mem_failedStages_iff]
    rintro ⟨g, hg, hfails, hgstage⟩
    rw [hclean g hg hgstage] at hfails
    exact Bool.false_ne_true hfails
  have hcontext := h.kept.context_eq (Nat.le_sub_one_of_lt (Nat.lt_of_le_of_lt (by decide) hstage))
  rw [h.kept.salvage_eq, if_neg hnot, hfindings, hcontext]

/-- Analyses that return at once leave no fault behind. -/
theorem analysisFaults_eq_nil (h : ∀ x ∈ a.analysesOf st files, a.interference x.1 1 = none) :
    a.analysisFaults st files = [] := by
  rw [analysisFaults_eq, List.flatMap_eq_nil_iff]
  intro x hx
  have hfirst : a.attempt x.1 x.2 1 = .ok x.2 := by rw [attempt, h x hx]
  exact ((a.analysisRun_series x).unique (.success hfirst)).1.symm

/-- Analyses that all return at once do not fail their stage, and past it nothing else does. -/
theorem run_clean (h : ∀ x ∈ a.analysesOf st files, a.interference x.1 1 = none)
    (hcompletes : (a.run st project files).1.completes .staticAnalysis = true) :
    ∀ f ∈ (a.run st project files).1.faults, f.stage = some .staticAnalysis → f.failsStage = false := by
  obtain ⟨k, s, hs, hfaults, -, hk⟩ := a.run_kept st project files
  intro f hf hstage
  rw [hfaults] at hf
  cases hfails : f.failsStage with
  | false => rfl
  | true =>
    have hmem := Recovery.mem_failedStages_iff.mpr ⟨f, hf, hfails, hstage⟩
    rw [hs.logged.analyses ((hk _).mp hcompletes), analysisFaults_eq_nil h] at hmem
    obtain ⟨g, hg, -⟩ := hmem
    cases hg

end Auditor

/-- A run that fails says why, and it returns exactly what its completed stages have found: one record for each
violation of the rules and then for each finding of the analyses, in order, texts of an assistant apart. Only a fault
of the analyses that fails their stage can take the findings away. -/
theorem failed_run_keeps_completed_findings (a : Auditor) (st : AuditState) (project : String)
    (files : List SourceFile) (hfailed : (a.run st project files).1.isSuccess = false)
    (hclean : (a.run st project files).1.stoppedIn ≠ some .staticAnalysis →
      ∀ f ∈ (a.run st project files).1.faults, f.stage = some .staticAnalysis → f.failsStage = false) :
    let report := (a.run st project files).1
    let context := a.contextOf st project files
    ∃ stage f, report.stoppedIn = some stage ∧ report.error = some f.text ∧
      f ∈ report.faults ∧ f.stage = some stage ∧ f.failsStage = true ∧
      (stage.number ≤ Stage.staticAnalysis.number → report.results = []) ∧
      (stage = .ruleExecution → context.RecordsAll ((a.staticFindings st files).map .static) report.results) ∧
      (stage = .categorization ∨ stage = .normalization ∨ stage = .enhancement →
        ∃ violations, a.ruleViolations st files = .ok violations ∧
          context.RecordsAll (violations.map .violation ++ (a.staticFindings st files).map .static) report.results) := by
  intro report context
  obtain ⟨s, hprogress, hfaults, ⟨herror, -⟩ | ⟨stage, f, herror, hresults, hs⟩⟩ := a.run_cases st project files
  · rw [AuditReport.isSuccess, herror] at hfailed
    exact absurd hfailed (by decide)
  have hstopped : report.stoppedIn = some stage := hs.stoppedIn_eq herror hprogress
  have hsalvage : report.results.map NormalizedResult.unassisted = s.salvage := by
    rw [hresults]
    exact hs.kept.finalResults_eq f
  have hlog : stage ≠ .staticAnalysis →
      ∀ g ∈ s.recovery.log, g.stage = some .staticAnalysis → g.failsStage = false := by
    intro hne
    rw [← hfaults]
    refine hclean ?_
    rw [hstopped, Ne, Option.some.injEq]
    exact hne
  have hrecords : Stage.staticAnalysis.number < stage.number → context.RecordsAll
      (s.data.violations.map .violation ++ (a.staticFindings st files).map .static) report.results := by
    intro hlate
    have hne : stage ≠ .staticAnalysis := by
      rintro rfl
      exact Nat.lt_irrefl _ hlate
    apply RunContext.RecordsAll.of_unassisted
    rw [hsalvage, hs.salvage_late hlate (hlog hne)]
    exact RunContext.recordsAll_normalizeAll rfl _ _
  refine ⟨stage, f, hstopped, herror, hfaults ▸ hs.recorded, hs.stage, hs.fails, ?_, ?_, ?_⟩
  · intro hle
    rw [hs.salvage_early hle, List.map_eq_nil_iff] at hsalvage
    exact hsalvage
  · rintro rfl
    have hviolations : s.data.violations = [] := hs.kept.produced.violations
    rw [hviolations] at hrecords
    exact hrecords (by decide)
  · intro hstage
    have hlate : Stage.ruleExecution.number < stage.number := by
      rcases hstage with rfl | rfl | rfl <;> decide
    have hviolations := hs.kept.produced.violations
    rw [if_pos (by omega)] at hviolations
    exact ⟨s.data.violations, hviolations, hrecords (Nat.lt_trans (by decide) hlate)⟩

/-- A sink that takes everything but the last record of normalization. -/
def refusingSink : Sink where
  refuseProgress p := if p.stage = .normalization ∧ p.status = .completed then some "disk full" else none

/-- A rule set that approves of no name. -/
def strictNaming : TextRuleSet where
  id := "naming"
  category := .style
  rules := []
  check u := .ok [{
    rule := "style/naming-convention"
    ruleName := "Naming convention"
    category := .style
    severity := .low
    message := "Rename the file"
    file := u.path
    location := .line u.path 1 }]

def strictAuditor : Auditor where
  config := { maxNestingDepth := 1 }
  exclude := ⟨[]⟩
  engine := {}
  ruleSets := [strictNaming]

/-- The results were made but not confirmed. All are returned, the violation before the finding. -/
theorem refused_normalization_keeps_findings :
    let st := strictAuditor.initialState (some refusingSink)
    let files : List SourceFile := [.loaded "a/b/notes.txt" "one line"]
    let report := (strictAuditor.run st "demo" files).1
    report.isSuccess = false ∧ report.stoppedIn = some .normalization ∧
      (∃ violations, strictAuditor.ruleViolations st files = .ok violations ∧
        violations.length = 1 ∧ (strictAuditor.staticFindings st files).length = 1 ∧
        (strictAuditor.contextOf st "demo" files).RecordsAll
          (violations.map .violation ++ (strictAuditor.staticFindings st files).map .static) report.results) ∧
      report.results.map (fun r => (r.rule, r.file, r.lineStart, r.lineEnd)) =
        [("style/naming-convention", "a/b/notes.txt", 1, 1), ("deep-nesting", "a/b/notes.txt", 1, 1)] ∧
      report.results.map (fun r => (r.main, r.sub, r.message)) =
        [(.standards, .naming, "Rename the file"),
          (.structural, .nesting, "Directory 'a/b' is nested 2 levels deep (limit 1)")] := by
  intro st files report
  have hfailed : report.isSuccess = false := rfl
  have hstopped : report.stoppedIn = some .normalization := by decide +kernel
  have hcompletes : report.completes .staticAnalysis = true := by
    rw [AuditReport.completes, hstopped]
    decide
  have hclean : ∀ f ∈ report.faults, f.stage = some .staticAnalysis → f.failsStage = false :=
    Auditor.run_clean (fun _ _ => rfl) hcompletes
  obtain ⟨stage, f, hstage, -, -, -, -, -, -, hlate⟩ :=
    failed_run_keeps_completed_findings strictAuditor st "demo" files hfailed fun _ => hclean
  obtain rfl : stage = .normalization := Option.some.inj (hstage.symm.trans hstopped)
  obtain ⟨violations, hviolations, hrecords⟩ := hlate (.inr (.inl rfl))
  have hone : (strictAuditor.ruleViolations st files).toOption.map List.length = some 1 := by decide +kernel
  rw [hviolations] at hone
  refine ⟨hfailed, hstopped, ⟨violations, hviolations, Option.some.inj hone, ?_, hrecords⟩, ?_, ?_⟩ <;> decide +kernel

end CodeAudit
