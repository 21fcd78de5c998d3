import CodeAudit.Ast.Node
import CodeAudit.Count
import Mathlib.Data.List.Basic
import Mathlib.Data.List.Nodup

/-! Ids by base and counter. What is given for a base depends on how often the base was used before, so that the
ids for a list of bases are known without the counters; they differ if no base looks like a numbered one. -/
namespace CodeAudit

theorem append_cons_inj_of_notMem_right {α : Type} {a b : α} {xs xs' ys ys' : List α} (hys : b ∉ ys)
    (hys' : a ∉ ys') : xs ++ a :: ys = xs' ++ b :: ys' ↔ xs = xs' ∧ a = b ∧ ys = ys' := by
  constructor
  · intro h
    rcases List.append_eq_append_iff.mp h with ⟨l, rfl, hl⟩ | ⟨l, rfl, hl⟩
    · cases l with
      | nil => simpa using hl
      | cons c l =>
        obtain ⟨-, rfl⟩ := List.cons_eq_cons.mp hl
        simp at hys
    · cases l with
      | nil => simpa [eq_comm] using hl
      | cons c l =>
        obtain ⟨-, rfl⟩ := List.cons_eq_cons.mp hl
        simp at hys'
  · rintro ⟨rfl, rfl, rfl⟩
    rfl

namespace IdCounts

theorem lookup_cons (e : String × Nat) (counts : IdCounts) (b : String) :
    List.lookup b (e :: counts) = if b = e.1 then some e.2 else counts.lookup b := by
  rw [List.lookup_cons]
  by_cases hb : b = e.1
  · simp [hb]
  · rw [if_neg hb, beq_false_of_ne hb]

theorem lookup_bump (counts : IdCounts) (base b : String) :
    (counts.bump base).lookup b =
      if b = base then some ((counts.lookup base).getD 0 + 1) else counts.lookup b := by
  induction counts with
  | nil => exact lookup_cons (base, 1) [] b
  | cons e rest ih =>
    obtain ⟨k, n⟩ := e
    rw [bump]
    by_cases hk : k = base
    · subst hk
      by_cases hb : b = k <;> simp [lookup_cons, hb]
    · rw [if_neg hk, lookup_cons, ih, lookup_cons, lookup_cons, if_neg (Ne.symm hk)]
      by_cases hb : b = k
      · rw [if_pos hb, if_neg (fun h => hk (hb ▸ h)), if_pos hb]
      · rw [if_neg hb, if_neg hb]

theorem allocate_snd (counts : IdCounts) (base : String) : (counts.allocate base).2 = counts.bump base := by
  unfold allocate
  split <;> rfl

/-- The id that is given depends on how often its base was used and on nothing else. -/
theorem allocate_fst_congr {counts counts' : IdCounts} {base : String}
    (h : counts.lookup base = counts'.lookup base) : (counts.allocate base).1 = (counts'.allocate base).1 := by
  unfold allocate
  rw [h]
  split <;> rfl

/-- An id is its base with nothing or a number behind it. -/
theorem allocate_fst (counts : IdCounts) (base : String) :
    ∃ tail : String, (counts.allocate base).1 = base ++ tail := by
  unfold allocate
  split
  · exact ⟨"", by simp⟩
  · rename_i n _
    exact ⟨"#" ++ toString n, String.append_assoc ..⟩

/-- The id for a base that was used so often before. -/
def tagged (base : String) : Nat → String
  | 0 => base
  | n + 1 => s!"{base}#{n + 1}"

/-- The ids for some bases, where others were used before. -/
def numberedAfter (used : List String) : List String → List String
  | [] => []
  | b :: rest => tagged b (used.count b) :: numberedAfter (used ++ [b]) rest

/-- No base with a number behind it. -/
def Plain (base : String) : Prop := ∀ b n, base ≠ tagged b (n + 1)

/-- The counters after some bases. -/
def Counts (counts : IdCounts) (used : List String) : Prop :=
  ∀ b, counts.lookup b = if b ∈ used then some (used.count b) else none

variable {counts : IdCounts} {used earlier bases : List String} {b b' id : String} {m n : Nat}

theorem counts_nil : Counts [] [] := fun b => by simp

theorem Counts.allocate_fst_eq (h : counts.Counts used) (b : String) :
    (counts.allocate b).1 = tagged b (used.count b) := by
  unfold allocate
  rw [h b]
  by_cases hb : b ∈ used
  · obtain ⟨n, hn⟩ := Nat.exists_eq_add_one.mpr (List.count_pos_iff.mpr hb)
    rw [if_pos hb, hn]
    rfl
  · rw [if_neg hb, List.count_eq_zero.mpr hb]
    rfl

theorem Counts.allocate (h : counts.Counts used) (b : String) : (counts.allocate b).2.Counts (used ++ [b]) := by
  intro b'
  rw [allocate_snd, lookup_bump, h b, h b', List.count_append, List.count_singleton]
  by_cases hb : b' = b
  · subst hb
    by_cases hused : b' ∈ used
    · simp [hused]
    · simp [hused, List.count_eq_zero.mpr hused]
  · simp [hb, Ne.symm hb]

theorem length_numberedAfter (used bases : List String) : (numberedAfter used bases).length = bases.length := by
  induction bases generalizing used with
  | nil => rfl
  | cons b rest ih => rw [numberedAfter, List.length_cons, List.length_cons, ih]

/-- An id tells how often its base was used before. -/
theorem getElem?_numberedAfter (used bases : List String) (k : Nat) :
    (numberedAfter used bases)[k]? = bases[k]?.map fun b => tagged b ((used ++ bases.take k).count b) := by
  induction bases generalizing used k with
  | nil => simp [numberedAfter]
  | cons b rest ih =>
    cases k with
    | zero => simp [numberedAfter]
    | succ k =>
      rw [numberedAfter, List.getElem?_cons_succ, ih]
      simp

theorem numberedAfter_append (used xs ys : List String) :
    numberedAfter used (xs ++ ys) = numberedAfter used xs ++ numberedAfter (used ++ xs) ys := by
  induction xs generalizing used with
  | nil => simp [numberedAfter]
  | cons b rest ih => simp [numberedAfter, ih]

/-- Bases that do not occur themselves make no difference. -/
theorem numberedAfter_of_notMem (h : ∀ b ∈ bases, b ∉ earlier) (used : List String) :
    numberedAfter (earlier ++ used) bases = numberedAfter used bases := by
  induction bases generalizing used with
  | nil => rfl
  | cons b rest ih =>
    obtain ⟨hb, hrest⟩ := List.forall_mem_cons.mp h
    rw [numberedAfter, numberedAfter, List.append_assoc, ih hrest, List.count_append, List.count_eq_zero.mpr hb,
      Nat.zero_add]

/-- The members of a list, each under its base and the number of those before it with the same base. -/
theorem map_tagged_eq_numberedAfter {α κ : Type} [DecidableEq κ] (base : α → String) (key : α → κ) (before xs : List α)
    (h : ((before ++ xs).map key).Nodup) :
    xs.map (fun x => tagged (base x)
        ((((before ++ xs).takeWhile fun y => key y ≠ key x).map base).count (base x))) =
      numberedAfter (before.map base) (xs.map base) := by
  induction xs generalizing before with
  | nil => rfl
  | cons x rest ih =>
    have hrest := ih (before ++ [x]) (by simpa using h)
    have hbefore : (before ++ x :: rest).takeWhile (fun y => key y ≠ key x) = before := by
      rw [List.map_append, List.map_cons, List.nodup_append] at h
      rw [List.takeWhile_append_of_pos]
      · simp
      · intro y hy
        simpa using h.2.2 (key y) (List.mem_map_of_mem hy) (key x) List.mem_cons_self
    rw [List.append_assoc, List.singleton_append, List.map_append] at hrest
    rw [List.map_cons, hrest, hbefore]
    rfl

theorem exists_of_mem_numberedAfter (h : id ∈ numberedAfter used bases) :
    ∃ b ∈ bases, ∃ n, used.count b ≤ n ∧ id = tagged b n := by
  induction bases generalizing used with
  | nil => cases h
  | cons b rest ih =>
    rcases List.mem_cons.mp h with rfl | h
    · exact ⟨b, List.mem_cons_self, _, Nat.le_refl _, rfl⟩
    · obtain ⟨b', hb', n, hn, rfl⟩ := ih h
      refine ⟨b', List.mem_cons_of_mem b hb', n, Nat.le_trans ?_ hn, rfl⟩
      rw [List.count_append]
      exact Nat.le_add_right _ _

theorem toList_tagged_succ (b : String) (n : Nat) :
    (tagged b (n + 1)).toList = b.toList ++ '#' :: (n + 1).repr.toList := by
  simp [tagged, toString]

/-- A base that ends in a name without the mark for numbers, behind a character of another kind, is plain. -/
theorem plain_of_toList {before name : List Char} {c : Char} (hbase : b.toList = before ++ c :: name)
    (hname : '#' ∉ name) (hc : c ≠ '#') (hdigit : c.isDigit = false) : Plain b := by
  rintro b' n rfl
  rw [toList_tagged_succ] at hbase
  rcases List.append_eq_append_iff.mp hbase with ⟨l, -, hl⟩ | ⟨l, -, hl⟩
  · cases l with
    | nil => exact hc (List.cons_eq_cons.mp hl).1.symm
    | cons d l =>
      obtain ⟨-, hdigits⟩ := List.cons_eq_cons.mp hl
      have hmem : c ∈ (n + 1).repr.toList := by simp [hdigits]
      exact notMem_repr hdigit _ hmem
  · cases l with
    | nil => exact hc (List.cons_eq_cons.mp hl).1
    | cons d l =>
      obtain ⟨-, rfl⟩ := List.cons_eq_cons.mp hl
      simp at hname

theorem Plain.tagged_inj (hb : Plain b) (hb' : Plain b') (h : tagged b m = tagged b' n) : b = b' ∧ m = n := by
  have hmark : ∀ n : Nat, '#' ∉ n.repr.toList := notMem_repr rfl
  match m, n with
  | 0, 0 => exact ⟨h, rfl⟩
  | 0, n + 1 => exact absurd h (hb b' n)
  | m + 1, 0 => exact absurd h.symm (hb' b m)
  | m + 1, n + 1 =>
    have hlist := congrArg String.toList h
    rw [toList_tagged_succ, toList_tagged_succ, append_cons_inj_of_notMem_right (hmark _) (hmark _)] at hlist
    exact ⟨String.toList_inj.mp hlist.1, eq_of_toList_repr hlist.2.2⟩

/-- Plain bases get ids of their own. -/
theorem nodup_numberedAfter (h : ∀ b ∈ bases, Plain b) : (numberedAfter used bases).Nodup := by
  induction bases generalizing used with
  | nil => exact List.nodup_nil
  | cons b rest ih =>
    obtain ⟨hb, hrest⟩ := List.forall_mem_cons.mp h
    rw [numberedAfter, List.nodup_cons]
    refine ⟨fun hmem => ?_, ih hrest⟩
    obtain ⟨b', hb', n, hn, heq⟩ := exists_of_mem_numberedAfter hmem
    obtain ⟨rfl, rfl⟩ := hb.tagged_inj (hrest b' hb') heq
    -- the base itself is counted from here on
    rw [List.count_append, List.count_singleton_self] at hn
    omega

end IdCounts
end CodeAudit
