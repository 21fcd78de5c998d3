import CodeAudit.Proofs.Rules.Order
import CodeAudit.Proofs.Rules.Reports
import Mathlib.Data.List.Flatten
import Mathlib.Data.List.Perm.Basic

/-! Rules on trees keep out of each other's way. What a run gives is put together from what each rule
makes of each file that could be parsed: its reports, or one error if a text of a report cannot be worked
out. So a rule or a file that is added, taken away or broken changes nothing in what the others give. -/
namespace CodeAudit

open List (Forall₂)

namespace AstRule

variable {r : AstRule} {n : AstNode} {f : AstFile} {found : List Violation}

/-- The nodes of a file that are to be reported. -/
def matched (r : AstRule) (f : AstFile) : List AstNode :=
  if r.appliesTo f then f.nodes.filter r.selects else []

/-- The texts of the report on a node can be worked out. -/
def Tells (r : AstRule) (n : AstNode) (f : AstFile) : Prop :=
  (∃ message, r.message (r.context n f) = .ok message) ∧
    ∀ text, r.suggestion = some text → ∃ suggestion, text (r.context n f) = .ok suggestion

theorem exists_report_iff : (∃ v, r.report n f = .ok v) ↔ r.Tells n f := by
  constructor
  · rintro ⟨v, hv⟩
    obtain ⟨message, hmessage, hv⟩ := exists_of_bind_eq_ok hv
    obtain ⟨suggestion, hsuggestion, -⟩ := exists_of_bind_eq_ok hv
    refine ⟨⟨message, hmessage⟩, ?_⟩
    intro text htext
    rw [htext] at hsuggestion
    obtain ⟨s, hs, -⟩ := exists_of_map_eq_ok hsuggestion
    exact ⟨s, hs⟩
  · rintro ⟨⟨message, hmessage⟩, hsuggestion⟩
    simp only [report, hmessage]
    cases htext : r.suggestion with
    | none => exact ⟨_, rfl⟩
    | some text =>
      obtain ⟨suggestion, hsuggestion⟩ := hsuggestion text htext
      rw [Option.mapM_some, hsuggestion]
      exact ⟨_, rfl⟩

theorem check_eq_mapM (r : AstRule) (f : AstFile) : r.check f = (r.matched f).mapM fun n => r.report n f := by
  unfold check matched
  split
  · rfl
  · rfl

/-- A rule gets through a file exactly if it can tell about every node that it matches. -/
theorem exists_check_iff : (∃ found, r.check f = .ok found) ↔ ∀ n ∈ r.matched f, r.Tells n f := by
  simp only [check_eq_mapM, mapM_eq_ok_iff, ← exists_report_iff]
  constructor
  · rintro ⟨found, hfound⟩ n hn
    obtain ⟨v, -, hv⟩ := exists_right_of_forall₂ hfound hn
    exact ⟨v, hv⟩
  · intro h
    choose! v hv using h
    exact ⟨(r.matched f).map v, List.forall₂_map_right_iff.mpr (List.forall₂_same.mpr hv)⟩

end AstRule

/-- What a rule and a file add to a run: the reports, if the rule can tell about every node that it
matches, and else one error that names the two. -/
inductive AstRule.Adds (r : AstRule) (f : AstFile) : List Violation → List RuleError → Prop
  | reports {found : List Violation} (htells : ∀ n ∈ r.matched f, r.Tells n f) (hcheck : r.check f = .ok found) :
      Adds r f found []
  | breakdown {n : AstNode} {why : String} (hn : n ∈ r.matched f) (hbreaks : ¬ r.Tells n f)
      (hcheck : r.check f = .error why) : Adds r f [] [.execution r.id f.path why]

/-- A run that holds what two others hold together, with all of the first in the order it has there. -/
structure RuleRun.Joins (whole part other : RuleRun) : Prop where
  violations : whole.violations.Perm (part.violations ++ other.violations)
  errors : whole.errors.Perm (part.errors ++ other.errors)
  keepsViolations : part.violations.Sublist whole.violations
  keepsErrors : part.errors.Sublist whole.errors

namespace RuleEngine

variable {e e₁ e₂ : RuleEngine} {files files₁ files₂ : List AstFile}

/-- Each rule with each file that could be parsed. -/
def pairs (e : RuleEngine) (files : List AstFile) : List (AstRule × AstFile) :=
  (files.filter fun f => !f.hasError).flatMap fun f => e.rules.map fun r => (r, f)

theorem outcome_adds (r : AstRule) (f : AstFile) : r.Adds f (found (outcome r f)) (failed (outcome r f)) := by
  unfold outcome
  cases hcheck : r.check f with
  | ok vs => exact .reports (AstRule.exists_check_iff.mp ⟨vs, hcheck⟩) hcheck
  | error why =>
    have hbreaks : ¬ ∀ n ∈ r.matched f, r.Tells n f := by
      rw [← AstRule.exists_check_iff, hcheck]
      simp
    obtain ⟨n, hn, hbreaks⟩ : ∃ n ∈ r.matched f, ¬ r.Tells n f := by simpa using hbreaks
    exact .breakdown hn hbreaks hcheck

theorem violations_execute (e : RuleEngine) (files : List AstFile) :
    (e.execute files).violations =
      Violation.sortByFile ((e.pairs files).flatMap fun p => found (outcome p.1 p.2)) := by
  simp [execute, pairs, List.flatMap_assoc, List.flatMap_map]

theorem errors_execute (e : RuleEngine) (files : List AstFile) :
    (e.execute files).errors = (e.pairs files).flatMap fun p => failed (outcome p.1 p.2) := by
  simp [execute, pairs, List.flatMap_assoc, List.flatMap_map]

theorem execute_filter (e : RuleEngine) (files : List AstFile) :
    e.execute (files.filter fun f => !f.hasError) = e.execute files := by
  simp [execute]

/-- Runs go together as their pairs do. -/
theorem joins_of_pairs (hperm : (e.pairs files).Perm (e₁.pairs files₁ ++ e₂.pairs files₂))
    (hpart : (e₁.pairs files₁).Sublist (e.pairs files)) :
    (e.execute files).Joins (e₁.execute files₁) (e₂.execute files₂) := by
  refine ⟨?_, ?_, ?_, ?_⟩
  · simp only [violations_execute]
    have hreports := hperm.flatMap_right fun p => found (outcome p.1 p.2)
    rw [List.flatMap_append] at hreports
    exact ((Violation.sortByFile_perm _).trans hreports).trans
      ((Violation.sortByFile_perm _).append (Violation.sortByFile_perm _)).symm
  · simp only [errors_execute]
    rw [← List.flatMap_append]
    exact hperm.flatMap_right _
  · simp only [violations_execute]
    exact Violation.sortByFile_sublist (hpart.flatMap _)
  · simp only [errors_execute]
    exact hpart.flatMap _

theorem joins_rule (before : List AstRule) (r : AstRule) (after : List AstRule) (files : List AstFile) :
    (execute ⟨before ++ r :: after⟩ files).Joins (execute ⟨before ++ after⟩ files) (execute ⟨[r]⟩ files) := by
  apply joins_of_pairs
  · refine List.Perm.trans (.flatMap_left _ fun f _ => ?_) (List.flatMap_append_perm _ _ _).symm
    rw [← List.map_append]
    exact (List.perm_middle.trans (List.perm_append_singleton r _).symm).map _
  · refine List.Sublist.flatMap_right _ fun f _ => ?_
    exact ((List.sublist_cons_self r after).append_left before).map _

theorem pairs_append (e : RuleEngine) (files others : List AstFile) :
    e.pairs (files ++ others) = e.pairs files ++ e.pairs others := by
  simp [pairs]

theorem joins_file (e : RuleEngine) (before : List AstFile) (f : AstFile) (after : List AstFile) :
    (e.execute (before ++ f :: after)).Joins (e.execute (before ++ after)) (e.execute [f]) := by
  have hwhole : e.pairs (before ++ f :: after) = e.pairs before ++ (e.pairs [f] ++ e.pairs after) := by
    rw [← pairs_append, ← pairs_append]
    rfl
  apply joins_of_pairs
  · rw [hwhole, pairs_append, List.append_assoc]
    exact List.perm_append_comm.append_left _
  · rw [hwhole, pairs_append]
    exact (List.sublist_append_right _ _).append_left _

/-- A run is put together from what its rules make of its files. Its reports are those of all pairs, by
file, line and rule; each pair adds its reports, or none and one error that names it; and a file that could
not be parsed adds nothing. One rule more or one file more, sound or broken, adds what it gives by itself
and leaves what the others give as it was. -/
theorem rules_are_isolated (e : RuleEngine) (files : List AstFile) :
    let run := e.execute files
    (∃ parts : List (List Violation × List RuleError),
      Forall₂ (fun pair part => pair.1.Adds pair.2 part.1 part.2) (e.pairs files) parts ∧
        run.violations.Perm (parts.flatMap (·.1)) ∧ run.errors = parts.flatMap (·.2)) ∧
      run.violations.Pairwise (fun v w => v.key ≤ w.key) ∧
      run = e.execute (files.filter fun f => !f.hasError) ∧
      (∀ before r after,
        (execute ⟨before ++ r :: after⟩ files).Joins (execute ⟨before ++ after⟩ files) (execute ⟨[r]⟩ files)) ∧
      ∀ before f after, (e.execute (before ++ f :: after)).Joins (e.execute (before ++ after)) (e.execute [f]) := by
  refine ⟨?_, ?_, (e.execute_filter files).symm, fun before r after => joins_rule before r after files,
    e.joins_file⟩
  · refine ⟨(e.pairs files).map fun p => (found (outcome p.1 p.2), failed (outcome p.1 p.2)), ?_, ?_, ?_⟩
    · exact List.forall₂_map_right_iff.mpr (List.forall₂_same.mpr fun p _ => outcome_adds p.1 p.2)
    · rw [violations_execute, List.flatMap_map]
      exact Violation.sortByFile_perm _
    · rw [errors_execute, List.flatMap_map]
  · rw [violations_execute]
    exact Violation.pairwise_sortByFile _

/-- Reports every node that has a name. -/
def named (id : String) (text : ReportText) : AstRule where
  id := id
  name := id
  conditions := [⟨"name", .exists⟩]
  message := text

def mainFile : AstFile :=
  .ofTree "main.go" .go { kind := .function, name := some "main", location := ⟨"main.go", 1, 1, 3, 2⟩ } [] [] ""
    .full

theorem broken_rule_costs_own_reports :
    let broken := named "broken" fun _ => .error "no text"
    let sound := named "sound" (.fixed "has a name")
    let run := execute ⟨[broken, sound]⟩ [mainFile]
    run.errors = [.execution "broken" "main.go" "no text"] ∧ run.violations.map (·.rule) = ["sound"] ∧
      run.Joins (execute ⟨[sound]⟩ [mainFile]) (execute ⟨[broken]⟩ [mainFile]) := by
  refine ⟨by decide +kernel, by decide +kernel, ?_⟩
  exact (rules_are_isolated ⟨[]⟩ [mainFile]).2.2.2.1 [] _ [_]

end RuleEngine
end CodeAudit
