import CodeAudit.Proofs.Audit.Progress

/-! What a failure costs that a later attempt makes good. Its fault stays in the log, and the log
alone decides which stages count as failed. -/
namespace CodeAudit

/-- A failure that is worth another attempt because of its text is a passed time limit. -/
theorem FaultKind.severity_classify {message : String} (h : (classify message).isRetryable = true) :
    (classify message).severity = .error := by
  revert h
  simp only [classify]
  split
  · intro _
    rfl
  · split
    · intro h
      exact absurd h (by decide)
    · split
      · intro h
        exact absurd h (by decide)
      · intro h
        exact absurd h (by decide)

/-- A series of attempts that succeeds leaves the failed stages as they were exactly if all stages
that its failed attempts fail had failed before. -/
theorem Recovery.retry_ok {α : Type} {r : Recovery} {op : Nat → Except Fault α} {v : α}
    (h : (r.retry op).outcome = .ok v) :
    ∃ k, 1 ≤ k ∧ k ≤ r.maxRetries + 1 ∧ op k = .ok v ∧
      (∀ i, 1 ≤ i → i < k → ∃ f, op i = .error f ∧ f.isRetryable = true) ∧
      ((r.retry op).recovery.failedStages = r.failedStages ↔
        ∀ i f s, 1 ≤ i → i < k → op i = .error f → f.failsStage = true → f.stage = some s →
          s ∈ r.failedStages) := by
  obtain ⟨faults, hseries, hrecovery⟩ := r.retry_series op
  rw [h] at hseries
  obtain ⟨k, hk, hbound, hop, hbefore, hfaults⟩ := hseries.of_ok
  refine ⟨k, hk, by omega, hop, hbefore, ?_⟩
  rw [hrecovery, failedStages_recordAll_eq_iff]
  constructor
  · intro hkeeps i f s hi hik herror hfails hs
    exact hkeeps _ ((hfaults _).mpr ⟨i, f, hi, hik, herror, rfl⟩) s hfails hs
  · intro hkeeps g hg s hfails hs
    obtain ⟨i, f, hi, hik, herror, rfl⟩ := (hfaults g).mp hg
    exact hkeeps i f s hi hik herror hfails hs

namespace Auditor

variable {a : Auditor} {x : String × List Finding} {n : Nat}

theorem attempt_ok {found : List Finding} (h : a.attempt x.1 x.2 n = .ok found) :
    a.interference x.1 n = none ∧ found = x.2 := by
  unfold attempt at h
  split at h
  case h_1 hnone =>
    cases h
    exact ⟨hnone, rfl⟩
  case h_2 => cases h
  case h_3 => cases h

/-- A failed attempt at an analysis that is worth another one fails the stage. -/
theorem attempt_fails {f : Fault} (h : a.attempt x.1 x.2 n = .error f) (hretry : f.isRetryable = true) :
    f.failsStage = true := by
  obtain ⟨-, hseverity, hkind⟩ := attempt_error h
  rw [f.isRetryable_eq] at hretry
  rw [Fault.failsStage, hseverity]
  rcases hkind with hkind | ⟨message, hkind⟩
  · rw [hkind]
    rfl
  · rw [hkind] at hretry ⊢
    rw [FaultKind.severity_classify hretry]
    rfl

/-- An analysis that returns gives all its findings; its faults fail the stage exactly if it did not
return at once. -/
theorem returned_of_ok {found : List Finding} (h : (a.analysisRun x).outcome = .ok found) :
    a.returned x = x.2 ∧
      ((∃ f ∈ a.faultsOf x, f.failsStage = true) ↔ (a.interference x.1 1).isSome = true) := by
  have hseries := a.analysisRun_series x
  rw [h] at hseries
  obtain ⟨k, hk, -, hop, hbefore, hfaults⟩ := hseries.of_ok
  obtain ⟨hnone, rfl⟩ := attempt_ok hop
  refine ⟨by rw [returned, h], ?_⟩
  rcases Nat.eq_or_lt_of_le hk with rfl | hk
  · -- the first attempt is the one that returns
    rw [hnone]
    refine iff_of_false ?_ (by decide)
    rintro ⟨g, hg, -⟩
    obtain ⟨i, f, hi, hik, -⟩ := (hfaults g).mp hg
    omega
  · obtain ⟨f, herror, hretry⟩ := hbefore 1 (Nat.le_refl 1) hk
    have hfails : f.failsStage = true := attempt_fails herror hretry
    refine iff_of_true ⟨f.onAttempt 1, (hfaults _).mpr ⟨1, f, Nat.le_refl 1, hk, herror, rfl⟩, hfails⟩ ?_
    cases hi : a.interference x.1 1 with
    | some i => rfl
    | none =>
      rw [attempt, hi] at herror
      cases herror

variable {st : AuditState} {files : List SourceFile}

/-- If all analyses return, their findings are complete, and faults of theirs fail the stage exactly
if one of them did not return at once. -/
theorem analyses_returned (h : ∀ x ∈ a.analysesOf st files, ∃ found, (a.analysisRun x).outcome = .ok found) :
    a.staticFindings st files = ((a.analysesOf st files).flatMap (·.2)).mergeSort findingLe ∧
      ((∃ f ∈ a.analysisFaults st files, f.failsStage = true) ↔
        ∃ x ∈ a.analysesOf st files, (a.interference x.1 1).isSome = true) := by
  constructor
  · rw [staticFindings, runAnalyses_eq rfl]
    congr 1
    refine List.flatMap_congr fun x hx => ?_
    obtain ⟨found, hfound⟩ := h x hx
    exact (returned_of_ok hfound).1
  · rw [analysisFaults_eq]
    constructor
    · rintro ⟨f, hf, hfails⟩
      obtain ⟨x, hx, hf⟩ := List.mem_flatMap.mp hf
      obtain ⟨found, hfound⟩ := h x hx
      exact ⟨x, hx, (returned_of_ok hfound).2.mp ⟨f, hf, hfails⟩⟩
    · rintro ⟨x, hx, hsome⟩
      obtain ⟨found, hfound⟩ := h x hx
      obtain ⟨f, hf, hfails⟩ := (returned_of_ok hfound).2.mpr hsome
      exact ⟨f, List.mem_flatMap.mpr ⟨x, hx, hf⟩, hfails⟩

end Auditor

/-- Attempts that are made good cost the stages that they fail, unless these had failed before. So a
run in which all analyses return their findings keeps them exactly if each of them returned at its
first attempt; else it drops them all. -/
theorem recovered_attempts_fail_stages {α : Type} (r : Recovery) (op : Nat → Except Fault α) (a : Auditor)
    (st : AuditState) (project : String) (files : List SourceFile) :
    (∀ v, (r.retry op).outcome = .ok v →
      ∃ k, 1 ≤ k ∧ k ≤ r.maxRetries + 1 ∧ op k = .ok v ∧
        (∀ i, 1 ≤ i → i < k → ∃ f, op i = .error f ∧ f.isRetryable = true) ∧
        ((r.retry op).recovery.failedStages = r.failedStages ↔
          ∀ i f s, 1 ≤ i → i < k → op i = .error f → f.failsStage = true → f.stage = some s →
            s ∈ r.failedStages)) ∧
    ((∀ x ∈ a.analysesOf st files, ∃ found, (a.analysisRun x).outcome = .ok found) →
      (a.run st project files).1.completes .staticAnalysis = true →
      ∃ violations, (if (a.run st project files).1.completes .ruleExecution
          then a.ruleViolations st files = .ok violations else violations = []) ∧
        (a.run st project files).1.results.map NormalizedResult.unassisted =
          (a.contextOf st project files).normalizeAll (categorizeAll violations
            (if ∃ x ∈ a.analysesOf st files, (a.interference x.1 1).isSome = true then []
             else ((a.analysesOf st files).flatMap (·.2)).mergeSort Auditor.findingLe))) := by
  refine ⟨fun v hok => Recovery.retry_ok hok, ?_⟩
  intro hreturned hcompletes
  obtain ⟨k, s, hs, -, hresults, hk⟩ := a.run_kept st project files
  obtain ⟨hfindings, hfails⟩ := Auditor.analyses_returned hreturned
  have hle : Stage.staticAnalysis.number ≤ k := (hk _).mp hcompletes
  refine ⟨s.data.violations, ?_, ?_⟩
  · simp only [hk]
    exact hs.produced.violations
  · have hproduced := hs.produced.findings
    rw [if_pos hle, hfindings] at hproduced
    rw [hresults, hs.salvage_eq, hs.context_eq (Nat.le_trans (by decide) hle), hproduced]
    simp only [hs.logged.analyses hle, hfails]

/-- An operation of the analyses that times out once and then gives a value. -/
def timeoutThenValue (n : Nat) : Except Fault Nat :=
  if n = 1 then .error ((Fault.new .timeout "slow").atStage .staticAnalysis) else .ok 1

theorem retry_timeoutThenValue :
    ({} : Recovery).retry timeoutThenValue =
      ⟨.ok 1, ({} : Recovery).recordAll [((Fault.new .timeout "slow").atStage .staticAnalysis).onAttempt 1],
       1000, [1, 2]⟩ := by
  rw [Recovery.retry, Recovery.retryFrom]
  simp only [timeoutThenValue, if_true]
  rw [dif_pos (by decide), Recovery.retryFrom]
  rfl

/-- The second attempt succeeds, and still the stage counts as failed from then on. -/
theorem recovered_timeout_fails_stage :
    (({} : Recovery).retry timeoutThenValue).outcome = .ok 1 ∧ ({} : Recovery).failedStages = [] ∧
      (({} : Recovery).retry timeoutThenValue).recovery.failedStages = [.staticAnalysis] := by
  rw [retry_timeoutThenValue]
  exact ⟨rfl, by decide, by decide⟩

/-- An auditor whose first analysis times out once. -/
def flakyAuditor : Auditor where
  config := { maxNestingDepth := 1 }
  exclude := ⟨[]⟩
  engine := {}
  ruleSets := [Readability.ruleSet]
  interference name n := if name = "complexity" ∧ n = 1 then some .timedOut else none

def nestedFiles : List SourceFile := [.loaded "a/b/notes.txt" "one line"]

theorem flakyAuditor_returns (x : String × List Finding) : (flakyAuditor.analysisRun x).outcome = .ok x.2 := by
  have hok : ∀ n, ¬ (x.1 = "complexity" ∧ n = 1) → flakyAuditor.attempt x.1 x.2 n = .ok x.2 := by
    intro n hn
    have hnone : flakyAuditor.interference x.1 n = none := if_neg hn
    rw [Auditor.attempt, hnone]
  have hrun := flakyAuditor.analysisRun_series x
  by_cases hname : x.1 = "complexity"
  · have hfirst : flakyAuditor.interference x.1 1 = some .timedOut := if_pos ⟨hname, rfl⟩
    have htimeout : ∃ f, flakyAuditor.attempt x.1 x.2 1 = .error f ∧ f.isRetryable = true := by
      rw [Auditor.attempt, hfirst]
      exact ⟨_, rfl, rfl⟩
    obtain ⟨f, herror, hretry⟩ := htimeout
    exact (hrun.unique (.again herror hretry (by decide) (.success (hok 2 (by simp))))).2.symm
  · exact (hrun.unique (.success (hok 1 (by simp [hname])))).2.symm

/-- All analyses return and the run succeeds, but it has no finding of any of them. -/
theorem flakyAuditor_drops_findings :
    let report := (flakyAuditor.run (flakyAuditor.initialState none) "demo" nestedFiles).1
    ({} : Recovery).failedStages ≠ (({} : Recovery).retry timeoutThenValue).recovery.failedStages ∧
      report.isSuccess = true ∧
      ∃ violations, flakyAuditor.ruleViolations (flakyAuditor.initialState none) nestedFiles = .ok violations ∧
        report.results.map NormalizedResult.unassisted =
          (flakyAuditor.contextOf (flakyAuditor.initialState none) "demo" nestedFiles).normalizeAll
            (categorizeAll violations []) := by
  intro report
  have hok : (({} : Recovery).retry timeoutThenValue).outcome = .ok 1 := by rw [retry_timeoutThenValue]
  have hsuccess : report.isSuccess = true := rfl
  have hcompletes : ∀ stage, report.completes stage = true := by
    intro stage
    rw [AuditReport.completes, AuditReport.stoppedIn, hsuccess]
    rfl
  obtain ⟨hretry, hrun⟩ := recovered_attempts_fail_stages {} timeoutThenValue flakyAuditor
    (flakyAuditor.initialState none) "demo" nestedFiles
  obtain ⟨k, hk, -, hvalue, -, hiff⟩ := hretry 1 hok
  obtain ⟨violations, hviolations, hresults⟩ :=
    hrun (fun x _ => ⟨x.2, flakyAuditor_returns x⟩) (hcompletes _)
  rw [if_pos (hcompletes _)] at hviolations
  rw [if_pos ⟨_, List.mem_cons_self, rfl⟩] at hresults
  refine ⟨?_, hsuccess, violations, hviolations, hresults⟩
  intro hsame
  have hone : 1 < k := by
    rcases Nat.eq_or_lt_of_le hk with rfl | hk
    · simp [timeoutThenValue] at hvalue
    · exact hk
  have hmem := hiff.mp hsame.symm 1 _ _ (Nat.le_refl 1) hone rfl rfl rfl
  exact absurd hmem (by decide)

end CodeAudit
