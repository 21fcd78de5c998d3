import CodeAudit.Rules.Engine
import Mathlib.Data.List.Forall2

/-! Which files the rules report. A rule on trees names the file of the tree in any case. A set of rules
on text could name any file; those that are built in name the files they were given. -/
namespace CodeAudit

section Success

variable {ε α β : Type} {x : Except ε α} {b : β}

/-- A computation in two steps that succeeds has succeeded in both. -/
theorem exists_of_bind_eq_ok {f : α → Except ε β} (h : (x >>= f) = .ok b) : ∃ a, x = .ok a ∧ f a = .ok b := by
  cases x with
  | error why => cases h
  | ok a => exact ⟨a, rfl, h⟩

theorem exists_of_map_eq_ok {f : α → β} (h : x.map f = .ok b) : ∃ a, x = .ok a ∧ f a = b := by
  cases x with
  | error why => cases h
  | ok a => exact ⟨a, rfl, Except.ok.inj h⟩

/-- A series of computations succeeds exactly if each of them does. -/
theorem mapM_eq_ok_iff {f : α → Except ε β} {xs : List α} {ys : List β} :
    xs.mapM f = .ok ys ↔ List.Forall₂ (fun x y => f x = .ok y) xs ys := by
  constructor
  · intro h
    induction xs generalizing ys with
    | nil =>
      cases h
      exact .nil
    | cons x rest ih =>
      rw [List.mapM_cons] at h
      obtain ⟨y, hy, h⟩ := exists_of_bind_eq_ok h
      obtain ⟨others, hothers, h⟩ := exists_of_bind_eq_ok h
      cases h
      exact .cons hy (ih hothers)
  · intro h
    induction h with
    | nil => rfl
    | cons hy _ ih =>
      rw [List.mapM_cons, hy, ih]
      rfl

theorem exists_right_of_forall₂ {R : α → β → Prop} {xs : List α} {ys : List β} (h : List.Forall₂ R xs ys) {a : α}
    (ha : a ∈ xs) : ∃ b ∈ ys, R a b := by
  induction h with
  | nil => cases ha
  | cons hab _ ih =>
    rcases List.mem_cons.mp ha with rfl | ha
    · exact ⟨_, List.mem_cons_self, hab⟩
    · obtain ⟨b, hb, hab⟩ := ih ha
      exact ⟨b, List.mem_cons_of_mem _ hb, hab⟩

theorem exists_left_of_forall₂ {R : α → β → Prop} {xs : List α} {ys : List β} (h : List.Forall₂ R xs ys) {b : β}
    (hb : b ∈ ys) : ∃ a ∈ xs, R a b :=
  exists_right_of_forall₂ (List.Forall₂.flip h) hb

end Success

namespace Violation

variable {vs ws : List Violation} {v : Violation} {path : String}

/-- All reports are on the given file. -/
def AllOn (path : String) (vs : List Violation) : Prop := ∀ v ∈ vs, v.file = path

theorem allOn_nil : AllOn path [] := by
  intro v hv
  cases hv

theorem AllOn.append (h : AllOn path vs) (h' : AllOn path ws) : AllOn path (vs ++ ws) :=
  List.forall_mem_append.mpr ⟨h, h'⟩

theorem AllOn.ite {c : Prop} [Decidable c] (h : AllOn path vs) (h' : AllOn path ws) :
    AllOn path (if c then vs else ws) := by
  split
  · exact h
  · exact h'

theorem mem_sortByLine : v ∈ sortByLine vs ↔ v ∈ vs := List.mem_mergeSort

theorem mem_sortByFile : v ∈ sortByFile vs ↔ v ∈ vs := List.mem_mergeSort

theorem AllOn.sortByLine (h : AllOn path vs) : AllOn path (sortByLine vs) :=
  fun v hv => h v (mem_sortByLine.mp hv)

theorem allOn_filterMap {α : Type} {f : α → Option Violation} (h : ∀ x v, f x = some v → v.file = path)
    (xs : List α) : AllOn path (xs.filterMap f) := by
  intro v hv
  obtain ⟨x, -, hx⟩ := List.mem_filterMap.mp hv
  exact h x v hx

end Violation

open Violation (AllOn)

namespace LineRule

variable {v : Violation} {rules : List LineRule}

/-- Every report on a line is one of the rules'. -/
theorem exists_of_mem_checkLine {file : String} {number : Nat} {line : LinePair} {reported : List String}
    (h : v ∈ checkLine file number line rules reported) : ∃ r ∈ rules, ∃ column, v = r.violation file number column := by
  induction rules generalizing reported with
  | nil => cases h
  | cons r rest ih =>
    have hrest {reported : List String} (h : v ∈ checkLine file number line rest reported) :
        ∃ r' ∈ r :: rest, ∃ column, v = r'.violation file number column := by
      obtain ⟨r', hr', hv⟩ := ih h
      exact ⟨r', List.mem_cons_of_mem r hr', hv⟩
    unfold checkLine at h
    split at h
    · exact hrest h
    · split at h
      · exact hrest h
      · rename_i column _
        rcases List.mem_cons.mp h with rfl | h
        · exact ⟨r, List.mem_cons_self, column, rfl⟩
        · exact hrest h

theorem exists_of_mem_checkAll {u : TextUnit} {lines : List LinePair} (h : v ∈ checkAll rules u lines) :
    ∃ r ∈ rules, ∃ number column, v = r.violation u.path number column := by
  obtain ⟨found, hfound, hv⟩ := List.mem_flatten.mp h
  obtain ⟨x, -, rfl⟩ := List.mem_map.mp hfound
  obtain ⟨r, hr, column, rfl⟩ := exists_of_mem_checkLine hv
  exact ⟨r, List.mem_of_mem_filter hr, _, column, rfl⟩

theorem allOn_checkAll (rules : List LineRule) (u : TextUnit) (lines : List LinePair) :
    AllOn u.path (checkAll rules u lines) := by
  intro v hv
  obtain ⟨r, -, number, column, rfl⟩ := exists_of_mem_checkAll hv
  rfl

end LineRule

namespace TextRuleSet

variable {s : TextRuleSet} {units : List TextUnit} {found : List Violation}

/-- Whatever it is given, the set reports files of that only. -/
def ReportsOwnFiles (s : TextRuleSet) : Prop :=
  ∀ units found, s.checkProject units = .ok found → ∀ v ∈ found, ∃ u ∈ units, v.file = u.path

theorem file_of_mem_checkEach (h : ∀ u vs, s.check u = .ok vs → AllOn u.path vs)
    (heach : s.checkEach units = .ok found) : ∀ v ∈ found, ∃ u ∈ units, v.file = u.path := by
  induction units generalizing found with
  | nil =>
    cases heach
    simp
  | cons u rest ih =>
    have htail : ∀ {vs : List Violation}, s.checkEach rest = .ok vs →
        ∀ v ∈ vs, ∃ w ∈ u :: rest, v.file = w.path := by
      intro vs hvs v hv
      obtain ⟨w, hw, hfile⟩ := ih hvs v hv
      exact ⟨w, List.mem_cons_of_mem u hw, hfile⟩
    unfold checkEach at heach
    split at heach
    case h_1 own hown =>
      obtain ⟨vs, hrest, rfl⟩ := exists_of_map_eq_ok heach
      intro v hv
      rcases List.mem_append.mp hv with hv | hv
      · exact ⟨u, List.mem_cons_self, h u own hown v hv⟩
      · exact htail hrest v hv
    case h_2 => exact htail heach
    case h_3 => cases heach

/-- A set that checks contents, file by file, and adds to the reports such on files of the project. -/
theorem reportsOwnFiles_of {check : TextUnit → String → List Violation}
    (hcheck : s.check = onContent check) (hown : ∀ u content, AllOn u.path (check u content))
    (hfinish : ∀ units vs, ∀ v ∈ s.finish units vs, v ∈ vs ∨ ∃ u ∈ units, v.file = u.path) :
    s.ReportsOwnFiles := by
  intro units found hfound v hv
  have hunit : ∀ u vs, s.check u = .ok vs → AllOn u.path vs := by
    intro u vs hvs
    rw [hcheck, onContent] at hvs
    split at hvs
    · cases hvs
      exact hown u _
    · cases hvs
  obtain ⟨vs, heach, rfl⟩ := exists_of_map_eq_ok hfound
  rcases hfinish units vs v hv with hv | hv
  · exact file_of_mem_checkEach hunit heach v hv
  · exact hv

end TextRuleSet

namespace Hazards

theorem allOn_secrets (u : TextUnit) (lines : List LinePair) : AllOn u.path (secrets u lines) := by
  refine Violation.allOn_filterMap (fun x v hv => ?_) _
  obtain ⟨r, -, hr⟩ := List.exists_of_findSome?_eq_some hv
  obtain ⟨column, -, rfl⟩ := Option.map_eq_some_iff.mp hr
  rfl

theorem ruleSet_reportsOwnFiles : ruleSet.ReportsOwnFiles := by
  refine TextRuleSet.reportsOwnFiles_of rfl (fun u content => ?_) fun units vs v hv => .inl hv
  exact ((allOn_secrets u _).append (LineRule.allOn_checkAll _ u _)).sortByLine

end Hazards

theorem NamingCheck.allOn_check (u : TextUnit) (lines : List LinePair) : AllOn u.path (check u lines) := by
  refine Violation.allOn_filterMap (fun x v hv => ?_) _
  obtain ⟨c, -, hc⟩ := List.exists_of_findSome?_eq_some hv
  obtain ⟨offender, -, rfl⟩ := Option.map_eq_some_iff.mp hc
  rfl

namespace Readability

theorem allOn_magicNumbers (u : TextUnit) (lines : List LinePair) : AllOn u.path (magicNumbers u lines) := by
  refine Violation.allOn_filterMap (fun x v hv => ?_) _
  obtain ⟨number, -, rfl⟩ := Option.map_eq_some_iff.mp hv
  rfl

theorem allOn_longLines (u : TextUnit) (lines : List LinePair) : AllOn u.path (longLines u lines) := by
  refine Violation.allOn_filterMap (fun x v hv => ?_) _
  simp only at hv
  split at hv
  · cases hv
  · cases hv
    rfl

theorem allOn_longFunctions (u : TextUnit) (lines : List LinePair) : AllOn u.path (longFunctions u lines) := by
  refine Violation.allOn_filterMap (fun x v hv => ?_) _
  simp only at hv
  split at hv
  · split at hv
    · cases hv
    · cases hv
      rfl
  · cases hv

theorem ruleSet_reportsOwnFiles : ruleSet.ReportsOwnFiles := by
  refine TextRuleSet.reportsOwnFiles_of rfl (fun u content => ?_) fun units vs v hv => .inl hv
  have honLines : ∀ lines, AllOn u.path ((LineRule.checkAll lineRules u lines).filter fun v =>
      !(u.isTest && v.rule == debugStatement.id)) :=
    fun lines v hv => LineRule.allOn_checkAll _ u lines v (List.mem_filter.mp hv).1
  exact ((((NamingCheck.allOn_check u _).append (.ite Violation.allOn_nil (allOn_magicNumbers u _))).append
    (allOn_longLines u _)).append (allOn_longFunctions u _) |>.append (honLines _)).sortByLine

end Readability

namespace TestHygiene

theorem allOn_emptyPythonTests (u : TextUnit) (lines : List LinePair) :
    AllOn u.path (emptyPythonTests u lines) := by
  refine Violation.allOn_filterMap (fun x v hv => ?_) _
  simp only at hv
  split at hv
  · cases hv
  · split at hv
    · cases hv
      rfl
    · cases hv

theorem allOn_missingAssertions? (u : TextUnit) (lines : List LinePair) :
    AllOn u.path (missingAssertions? u lines).toList := by
  unfold missingAssertions?
  split
  · exact Violation.allOn_nil
  · split
    · exact Violation.allOn_nil
    · exact List.forall_mem_singleton.mpr rfl

theorem allOn_check (u : TextUnit) (content : String) : AllOn u.path (check u content) := by
  refine .ite (Violation.AllOn.sortByLine ?_) Violation.allOn_nil
  exact ((LineRule.allOn_checkAll _ u _).append (.ite (allOn_emptyPythonTests u _) Violation.allOn_nil)).append
    (allOn_missingAssertions? u _)

theorem file_of_mem_missingTestFiles {units : List TextUnit} {v : Violation} (hv : v ∈ missingTestFiles units) :
    ∃ u ∈ units, v.file = u.path := by
  obtain ⟨u, hu, hv⟩ := List.mem_filterMap.mp hv
  refine ⟨u, hu, ?_⟩
  split at hv
  · cases hv
  · split at hv
    · cases hv
    · cases hv
      rfl

theorem ruleSet_reportsOwnFiles : ruleSet.ReportsOwnFiles := by
  refine TextRuleSet.reportsOwnFiles_of rfl allOn_check fun units vs v hv => ?_
  rcases List.mem_append.mp (Violation.mem_sortByFile.mp hv) with hv | hv
  · exact .inl hv
  · exact .inr (file_of_mem_missingTestFiles hv)

end TestHygiene

namespace ImportHygiene

theorem allOn_check (u : TextUnit) (content : String) : AllOn u.path (check u content) :=
  ((LineRule.allOn_checkAll _ u _).append
    (.ite (LineRule.allOn_checkAll _ u _) Violation.allOn_nil)).sortByLine

theorem file_of_mem_barrelCycles {units : List TextUnit} {v : Violation} (hv : v ∈ barrelCycles units) :
    ∃ u ∈ units, v.file = u.path := by
  obtain ⟨u, hu, hv⟩ := List.mem_flatMap.mp hv
  refine ⟨u, hu, ?_⟩
  simp only at hv
  split at hv
  · cases hv
  · split at hv
    · cases hv
    · obtain ⟨x, -, hx⟩ := List.mem_filterMap.mp hv
      split at hx
      · cases hx
      · obtain ⟨m, -, rfl⟩ := Option.map_eq_some_iff.mp hx
        rfl

theorem ruleSet_reportsOwnFiles : ruleSet.ReportsOwnFiles := by
  refine TextRuleSet.reportsOwnFiles_of rfl allOn_check fun units vs v hv => ?_
  rcases List.mem_append.mp hv with hv | hv
  · exact .inl hv
  · exact .inr (file_of_mem_barrelCycles hv)

end ImportHygiene

namespace TextRuleSet

/-- Every built-in set reports files that it was given. -/
theorem reportsOwnFiles_of_mem_enabled {s : TextRuleSet} {t : RuleToggles} (hs : s ∈ enabled t) :
    s.ReportsOwnFiles := by
  have hone : ∀ {on : Bool} {r : TextRuleSet}, s ∈ (if on then [r] else []) → s = r := by
    intro on r hs
    cases on with
    | false => cases hs
    | true => exact List.mem_singleton.mp hs
  rcases List.mem_append.mp hs with hs | hs
  · rcases List.mem_append.mp hs with hs | hs
    · rcases List.mem_append.mp hs with hs | hs
      · rw [hone hs]
        exact Hazards.ruleSet_reportsOwnFiles
      · rw [hone hs]
        exact Readability.ruleSet_reportsOwnFiles
    · rw [hone hs]
      exact TestHygiene.ruleSet_reportsOwnFiles
  · rw [hone hs]
    exact ImportHygiene.ruleSet_reportsOwnFiles

/-- What a run has gathered comes from the sets that succeeded. -/
theorem exists_of_mem_gather {outcomes : List (Except CheckFailure (List Violation))} {run : Run}
    (h : gather outcomes = .ok run) {v : Violation} (hv : v ∈ run.violations) :
    ∃ found, .ok found ∈ outcomes ∧ v ∈ found := by
  induction outcomes generalizing run with
  | nil =>
    cases h
    cases hv
  | cons outcome rest ih =>
    have htail : ∀ {others : Run}, gather rest = .ok others → v ∈ others.violations →
        ∃ found, .ok found ∈ outcome :: rest ∧ v ∈ found := by
      intro others hothers hv
      obtain ⟨found, hfound, hv⟩ := ih hothers hv
      exact ⟨found, List.mem_cons_of_mem _ hfound, hv⟩
    unfold gather at h
    split at h
    case h_1 => contradiction
    case h_2 found _ heq =>
      cases heq
      obtain ⟨others, hothers, rfl⟩ := exists_of_map_eq_ok h
      rcases List.mem_append.mp hv with hv | hv
      · exact ⟨found, List.mem_cons_self, hv⟩
      · exact htail hothers hv
    case h_3 e _ heq =>
      cases heq
      obtain ⟨others, hothers, rfl⟩ := exists_of_map_eq_ok h
      exact htail hothers hv
    case h_4 => cases h

/-- What several sets report lies in the files that they were given. -/
theorem file_of_mem_runAll {sets : List TextRuleSet} {units : List TextUnit} {run : Run}
    (hsets : ∀ s ∈ sets, s.ReportsOwnFiles) (hrun : runAll sets units = .ok run) {v : Violation}
    (hv : v ∈ run.violations) : ∃ u ∈ units, v.file = u.path := by
  obtain ⟨gathered, hgather, rfl⟩ := exists_of_map_eq_ok hrun
  obtain ⟨found, hfound, hv⟩ := exists_of_mem_gather hgather (Violation.mem_sortByFile.mp hv)
  obtain ⟨s, hs, hcheck⟩ := List.mem_map.mp hfound
  exact hsets s hs units found hcheck v hv

end TextRuleSet

namespace AstRule

theorem file_of_report {r : AstRule} {n : AstNode} {t : AstFile} {v : Violation} (h : r.report n t = .ok v) :
    v.file = t.path := by
  obtain ⟨message, -, h⟩ := exists_of_bind_eq_ok h
  obtain ⟨suggestion, -, h⟩ := exists_of_bind_eq_ok h
  cases h
  rfl

/-- A rule on trees reports the file of the tree. -/
theorem allOn_check {r : AstRule} {t : AstFile} {found : List Violation} (h : r.check t = .ok found) :
    AllOn t.path found := by
  unfold check at h
  split at h
  · intro v hv
    obtain ⟨n, -, hreport⟩ := exists_left_of_forall₂ (mapM_eq_ok_iff.mp h) hv
    exact file_of_report hreport
  · cases h
    exact Violation.allOn_nil

end AstRule

/-- What the rules on trees report lies in the files of the trees. -/
theorem RuleEngine.file_of_mem_execute {e : RuleEngine} {trees : List AstFile} {v : Violation}
    (hv : v ∈ (e.execute trees).violations) : ∃ t ∈ trees, v.file = t.path := by
  have hv := Violation.mem_sortByFile.mp hv
  obtain ⟨outcome, houtcome, hv⟩ := List.mem_flatMap.mp hv
  obtain ⟨t, ht, houtcome⟩ := List.mem_flatMap.mp houtcome
  obtain ⟨r, -, rfl⟩ := List.mem_map.mp houtcome
  refine ⟨t, (List.mem_filter.mp ht).1, ?_⟩
  unfold RuleEngine.outcome at hv
  split at hv
  case h_1 found hfound => exact AstRule.allOn_check hfound v hv
  case h_2 => cases hv

end CodeAudit
