import CodeAudit.Text.Basic
import Mathlib.Data.String.Basic

/-! Sorted lists. Sorting is stable: it keeps sublists, and members that may stand in either order stay in the
order in which they came. Repetitions are left out where they stand side by side, so that a sorted list comes
out strictly increasing with the same members. -/
namespace CodeAudit

section Stable

variable {α : Type} {le : α → α → Bool} {xs ys : List α}

/-- A list is sorted with a new head by putting the head before all that it may precede. -/
theorem mergeSort_cons_eq (trans : ∀ a b c, le a b → le b c → le a c) (total : ∀ a b, le a b || le b a) (a : α)
    (xs : List α) :
    (a :: xs).mergeSort le = (xs.mergeSort le).filter (fun b => !le a b) ++ a :: (xs.mergeSort le).filter (le a) := by
  obtain ⟨before, after, hsorted, hrest, hbefore⟩ := List.mergeSort_cons trans total a xs
  have hafter : ∀ b ∈ after, le a b := by
    have hpairwise := List.pairwise_mergeSort trans total (a :: xs)
    rw [hsorted] at hpairwise
    exact (List.pairwise_cons.mp (List.pairwise_append.mp hpairwise).2.1).1
  rw [hsorted, hrest, List.filter_append, List.filter_append, List.filter_eq_self.mpr hbefore,
    List.filter_eq_self.mpr hafter]
  have hnone : after.filter (fun b => !le a b) = [] := by
    rw [List.filter_eq_nil_iff]
    intro b hb
    simp [hafter b hb]
  have hnone' : before.filter (le a) = [] := by
    rw [List.filter_eq_nil_iff]
    intro b hb
    simpa using hbefore b hb
  rw [hnone, hnone', List.append_nil, List.nil_append]

theorem mergeSort_sublist (trans : ∀ a b c, le a b → le b c → le a c) (total : ∀ a b, le a b || le b a)
    (h : xs.Sublist ys) : (xs.mergeSort le).Sublist (ys.mergeSort le) := by
  induction h with
  | slnil => exact List.Sublist.refl _
  | @cons xs ys a _ ih =>
    obtain ⟨before, after, hsorted, hrest, -⟩ := List.mergeSort_cons trans total a ys
    rw [hrest] at ih
    rw [hsorted]
    exact ih.middle a
  | @cons_cons xs ys a _ ih =>
    rw [mergeSort_cons_eq trans total a xs, mergeSort_cons_eq trans total a ys]
    exact (ih.filter _).append ((ih.filter _).cons_cons a)

/-- A sorted list is in order, and where two members may stand either way, in the order in which they came. -/
theorem pairwise_mergeSort_stable (trans : ∀ a b c, le a b → le b c → le a c) (total : ∀ a b, le a b || le b a)
    {R : α → α → Prop} (h : xs.Pairwise R) :
    (xs.mergeSort le).Pairwise fun a b => le a b ∧ (le b a → R a b) := by
  induction xs with
  | nil => simp
  | cons a xs ih =>
    obtain ⟨hhead, hrest⟩ := List.pairwise_cons.mp h
    obtain ⟨before, after, hsorted, hsplit, hbefore⟩ := List.mergeSort_cons trans total a xs
    have hordered := List.pairwise_mergeSort trans total (a :: xs)
    have hmem : ∀ b ∈ after, b ∈ xs := by
      intro b hb
      rw [← List.mem_mergeSort, hsplit]
      exact List.mem_append_right _ hb
    rw [hsorted] at hordered ⊢
    have hold := ih hrest
    rw [hsplit] at hold
    obtain ⟨hleft, hright, hcross⟩ := List.pairwise_append.mp hold
    obtain ⟨-, hafter, -⟩ := List.pairwise_append.mp hordered
    refine List.pairwise_append.mpr ⟨hleft, List.pairwise_cons.mpr ⟨?_, hright⟩, ?_⟩
    · intro b hb
      exact ⟨(List.pairwise_cons.mp hafter).1 b hb, fun _ => hhead b (hmem b hb)⟩
    · intro b hb c hc
      rcases List.mem_cons.mp hc with rfl | hc
      · have hnot : le c b = false := by simpa using hbefore b hb
        refine ⟨?_, fun hcb => ?_⟩
        · simpa [hnot] using total b c
        · rw [hnot] at hcb
          cases hcb
      · exact hcross b hb c hc

end Stable

section Repetitions

variable {α : Type} [DecidableEq α] {x a b : α} {l : List α}

theorem eraseRepsLoop_eq (a : α) (l acc : List α) :
    List.eraseRepsBy.loop (· == ·) a l acc = acc.reverse ++ List.eraseRepsBy.loop (· == ·) a l [] := by
  induction l generalizing a acc with
  | nil => simp [List.eraseRepsBy.loop]
  | cons b rest ih =>
    unfold List.eraseRepsBy.loop
    split
    · exact ih a acc
    · rw [ih b (a :: acc), ih b [a]]
      simp

/-- The first of two neighbours stays if it differs from the second. -/
theorem eraseReps_cons_cons (a b : α) (l : List α) :
    (a :: b :: l).eraseReps = if a = b then (b :: l).eraseReps else a :: (b :: l).eraseReps := by
  have hloop : ∀ c (m : List α), (c :: m).eraseReps = List.eraseRepsBy.loop (· == ·) c m [] := fun _ _ => rfl
  rw [hloop, hloop, List.eraseRepsBy.loop]
  by_cases h : a = b
  · subst h
    simp
  · rw [if_neg h, beq_false_of_ne h, eraseRepsLoop_eq b l [a]]
    rfl

theorem mem_eraseReps : x ∈ l.eraseReps ↔ x ∈ l := by
  induction l with
  | nil => rfl
  | cons a rest ih =>
    cases rest with
    | nil => rfl
    | cons b rest =>
      rw [eraseReps_cons_cons]
      split
      case isTrue h => rw [ih, h]; simp
      case isFalse => rw [List.mem_cons, ih, ← List.mem_cons]

/-- Members that grow weakly grow strictly once repetitions are left out. -/
theorem pairwise_eraseReps [LinearOrder α] (h : l.Pairwise (· ≤ ·)) : l.eraseReps.Pairwise (· < ·) := by
  induction l with
  | nil => exact List.Pairwise.nil
  | cons a rest ih =>
    cases rest with
    | nil => exact List.pairwise_singleton _ _
    | cons b rest =>
      obtain ⟨hhead, hrest⟩ := List.pairwise_cons.mp h
      rw [eraseReps_cons_cons]
      split
      case isTrue => exact ih hrest
      case isFalse hne =>
        refine List.pairwise_cons.mpr ⟨fun x hx => ?_, ih hrest⟩
        have hlt : a < b := lt_of_le_of_ne (hhead b List.mem_cons_self) hne
        rcases List.mem_cons.mp (mem_eraseReps.mp hx) with rfl | hx
        · exact hlt
        · exact lt_of_lt_of_le hlt ((List.pairwise_cons.mp hrest).1 x hx)

end Repetitions

namespace Text

variable {s : String} {xs : List String}

theorem leBool_iff {a b : String} : leBool a b = true ↔ a ≤ b := by
  rw [leBool, Bool.not_eq_true', decide_eq_false_iff_not, not_lt]

theorem mem_sortedDistinct : s ∈ sortedDistinct xs ↔ s ∈ xs := by
  rw [sortedDistinct, mem_eraseReps, sorted, List.mem_mergeSort]

theorem pairwise_sorted (xs : List String) : (sorted xs).Pairwise (· ≤ ·) := by
  refine (List.pairwise_mergeSort ?_ ?_ xs).imp leBool_iff.mp
  · intro a b c hab hbc
    rw [leBool_iff] at hab hbc ⊢
    exact hab.trans hbc
  · intro a b
    rw [Bool.or_eq_true, leBool_iff, leBool_iff]
    exact le_total a b

theorem pairwise_sortedDistinct (xs : List String) : (sortedDistinct xs).Pairwise (· < ·) :=
  pairwise_eraseReps (pairwise_sorted xs)

/-- The first of some texts in their order is one of them. -/
theorem headD_sortedDistinct_mem (h : xs ≠ []) : (sortedDistinct xs).headD "" ∈ xs := by
  obtain ⟨x, hx⟩ := List.exists_mem_of_ne_nil xs h
  rw [← mem_sortedDistinct] at hx ⊢
  cases hdistinct : sortedDistinct xs with
  | nil =>
    rw [hdistinct] at hx
    cases hx
  | cons y ys => exact List.mem_cons_self

end Text
end CodeAudit
