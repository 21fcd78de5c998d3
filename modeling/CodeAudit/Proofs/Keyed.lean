import CodeAudit.Count
import CodeAudit.Keyed
import Mathlib.Data.List.Induction
import Mathlib.Data.String.Basic
import Mathlib.Order.RelClasses

/-! Maps in key order are known by their lookups: `alter` is the only writer, so that one lemma says
what a lookup finds after a write, and one what it finds after a series of writes. -/
namespace CodeAudit.Keyed

section Lookup

variable {κ β γ : Type} [DecidableEq κ] {m : Keyed κ β} {k : κ} {v : β}

@[simp] theorem get?_nil (k : κ) : get? ([] : Keyed κ β) k = none := rfl

theorem get?_cons (e : κ × β) (m : Keyed κ β) (k : κ) :
    get? (e :: m) k = if e.1 = k then some e.2 else get? m k := by
  simp only [get?, List.find?_cons]
  by_cases h : e.1 = k <;> simp [h]

theorem mem_of_get? (h : get? m k = some v) : (k, v) ∈ m := by
  obtain ⟨e, he, rfl⟩ := Option.map_eq_some_iff.mp h
  have hk : e.1 = k := by simpa using List.find?_some he
  subst hk
  exact List.mem_of_find?_eq_some he

theorem get?_eq_none_iff : get? m k = none ↔ k ∉ keys m := by
  simp only [get?, Option.map_eq_none_iff, List.find?_eq_none, keys, List.mem_map, decide_eq_true_eq]
  constructor
  · rintro h ⟨e, he, hk⟩
    exact h e he hk
  · intro h e he hk
    exact h ⟨e, he, hk⟩

theorem contains_iff_mem_keys : contains m k = true ↔ k ∈ keys m := by
  simp only [contains, List.any_eq_true, decide_eq_true_eq, keys, List.mem_map]

/-- Where keys tell members apart, a search by key finds the member with it. -/
theorem find?_eq_some_iff {α : Type} {key : α → κ} {xs : List α} (hkey : ∀ x ∈ xs, ∀ y ∈ xs, key x = key y → x = y)
    {x : α} : (xs.find? fun y => key y = k) = some x ↔ x ∈ xs ∧ key x = k := by
  constructor
  · intro h
    exact ⟨List.mem_of_find?_eq_some h, by simpa using List.find?_some h⟩
  · rintro ⟨hx, rfl⟩
    cases hfind : xs.find? fun y => key y = key x with
    | none => exact absurd (List.find?_eq_none.mp hfind x hx) (by simp)
    | some y => rw [hkey y (List.mem_of_find?_eq_some hfind) x hx (by simpa using List.find?_some hfind)]

theorem filter_key_eq_singleton {α : Type} {key : α → κ} {xs : List α} (hkeys : (xs.map key).Nodup) {x : α}
    (hx : x ∈ xs) : (xs.filter fun y => key y = key x) = [x] := by
  induction xs with
  | nil => cases hx
  | cons y ys ih =>
    obtain ⟨hy, hys⟩ := List.nodup_cons.mp hkeys
    rcases List.mem_cons.mp hx with rfl | hx
    · have hrest : (ys.filter fun z => key z = key x) = [] := by
        rw [List.filter_eq_nil_iff]
        intro z hz heq
        exact hy (List.mem_map.mpr ⟨z, hz, of_decide_eq_true heq⟩)
      rw [List.filter_cons_of_pos (by simp), hrest]
    · have hne : key y ≠ key x := fun heq => hy (List.mem_map.mpr ⟨x, hx, heq.symm⟩)
      rw [List.filter_cons_of_neg (by simpa using hne), ih hys hx]

/-- Values may be rewritten under their keys. -/
theorem get?_map (f : κ → β → γ) (m : Keyed κ β) (k : κ) :
    get? (m.map fun e => (e.1, f e.1 e.2)) k = (get? m k).map (f k) := by
  induction m with
  | nil => rfl
  | cons e rest ih =>
    rw [List.map_cons, get?_cons, get?_cons, ih]
    split
    · rename_i h
      subst h
      rfl
    · rfl

end Lookup

variable {κ β α : Type} [LT κ] [DecidableLT κ] [DecidableEq κ]

/-- Keys in strictly increasing order. -/
def Sorted (m : Keyed κ β) : Prop := m.Pairwise fun a b => a.1 < b.1

omit [DecidableLT κ] [DecidableEq κ] in
theorem sorted_nil : Sorted ([] : Keyed κ β) := List.Pairwise.nil

omit [DecidableLT κ] [DecidableEq κ] in
theorem sorted_cons {e : κ × β} {m : Keyed κ β} : Sorted (e :: m) ↔ (∀ e' ∈ m, e.1 < e'.1) ∧ Sorted m :=
  List.pairwise_cons

theorem mem_alter {k : κ} {f : Option β → β} {m : Keyed κ β} {e : κ × β} (h : e ∈ alter k f m) :
    e.1 = k ∨ e ∈ m := by
  induction m with
  | nil =>
    rw [alter, List.mem_singleton] at h
    exact .inl (congrArg Prod.fst h)
  | cons x rest ih =>
    obtain ⟨k', v⟩ := x
    rw [alter] at h
    split at h
    · rcases List.mem_cons.mp h with rfl | h
      · exact .inl rfl
      · exact .inr h
    · split at h
      · rcases List.mem_cons.mp h with rfl | h
        · exact .inl rfl
        · exact .inr (List.mem_cons_of_mem _ h)
      · rcases List.mem_cons.mp h with rfl | h
        · exact .inr List.mem_cons_self
        · exact (ih h).imp id (List.mem_cons_of_mem _)

/-- Where each write adds one to the size of what stands under its key, the sizes add up to the number of writes. -/
theorem total_alter (size : β → Nat) {f : Option β → β} (hnone : size (f none) = 1)
    (hsome : ∀ v, size (f (some v)) = size v + 1) (k : κ) (m : Keyed κ β) :
    total ((alter k f m).values.map size) = total (m.values.map size) + 1 := by
  induction m with
  | nil => simp [alter, values, hnone]
  | cons x rest ih =>
    obtain ⟨k', v⟩ := x
    simp only [values] at ih ⊢
    rw [alter]
    split
    · simp only [List.map_cons, total_cons, hnone]
      omega
    · split
      · simp only [List.map_cons, total_cons, hsome]
        omega
      · simp only [List.map_cons, total_cons, ih]
        omega

theorem total_foldl_alter (size : β → Nat) (key : α → κ) {f : α → Option β → β}
    (hnone : ∀ x, size (f x none) = 1) (hsome : ∀ x v, size (f x (some v)) = size v + 1) (xs : List α) (m : Keyed κ β) :
    total ((xs.foldl (fun m x => alter (key x) (f x) m) m).values.map size) = total (m.values.map size) + xs.length := by
  induction xs generalizing m with
  | nil => rfl
  | cons x xs ih =>
    rw [List.foldl_cons, ih, total_alter size (hnone x) (hsome x), List.length_cons]
    omega

variable [IsStrictTotalOrder κ (· < ·)] {m m' : Keyed κ β} {k : κ} {v : β}

omit [DecidableLT κ] in
theorem get?_eq_none_of_lt (h : ∀ e ∈ m, k < e.1) : get? m k = none := by
  rw [get?_eq_none_iff, keys, List.mem_map]
  rintro ⟨e, he, rfl⟩
  exact irrefl _ (h e he)

omit [DecidableLT κ] in
theorem get?_of_mem (hm : Sorted m) (h : (k, v) ∈ m) : get? m k = some v := by
  induction m with
  | nil => cases h
  | cons x rest ih =>
    obtain ⟨hlt, hrest⟩ := sorted_cons.mp hm
    rw [get?_cons]
    rcases List.mem_cons.mp h with rfl | h
    · rw [if_pos rfl]
    · rw [if_neg (fun heq => irrefl k (heq ▸ hlt _ h)), ih hrest h]

omit [DecidableLT κ] in
theorem mem_iff_get? (hm : Sorted m) : (k, v) ∈ m ↔ get? m k = some v := ⟨get?_of_mem hm, mem_of_get?⟩

omit [DecidableLT κ] [DecidableEq κ] in
theorem nodup_keys (hm : Sorted m) : (keys m).Nodup := by
  rw [keys, List.nodup_iff_pairwise_ne, List.pairwise_map]
  refine hm.imp ?_
  intro a b hlt heq
  rw [heq] at hlt
  exact irrefl _ hlt

theorem sorted_alter (hm : Sorted m) (k : κ) (f : Option β → β) : Sorted (alter k f m) := by
  induction m with
  | nil => exact List.pairwise_singleton _ _
  | cons x rest ih =>
    obtain ⟨k', v⟩ := x
    obtain ⟨hlt, hrest⟩ := sorted_cons.mp hm
    rw [alter]
    split
    case isTrue hk =>
      refine sorted_cons.mpr ⟨?_, hm⟩
      intro e he
      rcases List.mem_cons.mp he with rfl | he
      · exact hk
      · exact Trans.trans hk (hlt e he)
    case isFalse hk =>
      split
      case isTrue heq =>
        subst heq
        exact sorted_cons.mpr ⟨hlt, hrest⟩
      case isFalse hne =>
        refine sorted_cons.mpr ⟨?_, ih hrest⟩
        intro e he
        rcases mem_alter he with he | he
        · rcases trichotomous_of (· < ·) k k' with h | h | h
          · exact absurd h hk
          · exact absurd h hne
          · rw [he]
            exact h
        · exact hlt e he

/-- A write changes what is found under its own key and nothing else. -/
theorem get?_alter (hm : Sorted m) (k k' : κ) (f : Option β → β) :
    get? (alter k f m) k' = if k = k' then some (f (get? m k)) else get? m k' := by
  induction m with
  | nil => rw [alter, get?_cons]; rfl
  | cons x rest ih =>
    obtain ⟨hlt, hrest⟩ := sorted_cons.mp hm
    rw [alter]
    split
    case isTrue hk =>
      have hnone : get? (x :: rest) k = none := by
        apply get?_eq_none_of_lt
        intro e he
        rcases List.mem_cons.mp he with rfl | he
        · exact hk
        · exact Trans.trans hk (hlt e he)
      rw [get?_cons, hnone]
    case isFalse hk =>
      split
      case isTrue heq =>
        subst heq
        rw [get?_cons, get?_cons, get?_cons, if_pos rfl]
        by_cases hk' : x.1 = k'
        · rw [if_pos hk', if_pos hk']
        · rw [if_neg hk', if_neg hk', if_neg hk']
      case isFalse hne =>
        rw [get?_cons, ih hrest, get?_cons, get?_cons, if_neg (Ne.symm hne)]
        split
        case isTrue h =>
          rw [if_neg]
          rintro rfl
          exact hne h.symm
        case isFalse => rfl

theorem sorted_insert (hm : Sorted m) (k : κ) (v : β) : Sorted (insert k v m) := sorted_alter hm k _

theorem get?_insert (hm : Sorted m) (k k' : κ) (v : β) :
    get? (insert k v m) k' = if k = k' then some v else get? m k' := get?_alter hm k k' _

omit [DecidableLT κ] in
/-- Two maps with the same lookups are the same list. -/
theorem ext (hm : Sorted m) (hm' : Sorted m') (h : ∀ k, get? m k = get? m' k) : m = m' := by
  have hmem : ∀ e, e ∈ m ↔ e ∈ m' := by
    rintro ⟨k, v⟩
    rw [mem_iff_get? hm, mem_iff_get? hm', h]
  have hnodup : ∀ {m : Keyed κ β}, Sorted m → m.Nodup := by
    intro m hm
    refine hm.imp ?_
    rintro a b hlt rfl
    exact irrefl _ hlt
  have hperm : m.Perm m' := (List.perm_ext_iff_of_nodup (hnodup hm) (hnodup hm')).mpr hmem
  refine hperm.eq_of_pairwise ?_ hm hm'
  intro a b _ _ hab hba
  exact absurd (Trans.trans hab hba) (irrefl _)

/-- A series of writes, each under a key of its own. -/
theorem sorted_foldl_alter (key : α → κ) (f : α → Option β → β) (xs : List α) (hm : Sorted m) :
    Sorted (xs.foldl (fun m x => alter (key x) (f x) m) m) := by
  induction xs generalizing m with
  | nil => exact hm
  | cons x rest ih => exact ih (sorted_alter hm _ _)

/-- After a series of writes a lookup sees those under its key, in their order. -/
theorem get?_foldl_alter (key : α → κ) (f : α → Option β → β) (xs : List α) (hm : Sorted m) (k : κ) :
    get? (xs.foldl (fun m x => alter (key x) (f x) m) m) k =
      (xs.filter fun x => key x = k).foldl (fun old x => some (f x old)) (get? m k) := by
  induction xs generalizing m with
  | nil => rfl
  | cons x rest ih =>
    rw [List.foldl_cons, ih (sorted_alter hm _ _), get?_alter hm, List.filter_cons]
    by_cases hk : key x = k
    · subst hk
      simp
    · simp [hk]

/-- Writes under keys of their own can all be read back. -/
theorem get?_foldl_insert_eq_some_iff (key : α → κ) (value : α → β) {xs : List α} (hkeys : (xs.map key).Nodup)
    (hm : Sorted m) (hnew : ∀ x ∈ xs, get? m (key x) = none) :
    get? (xs.foldl (fun m x => insert (key x) (value x) m) m) k = some v ↔
      get? m k = some v ∨ ∃ x ∈ xs, key x = k ∧ value x = v := by
  induction xs generalizing m with
  | nil => simp
  | cons x xs ih =>
    obtain ⟨hx, hxs⟩ := List.nodup_cons.mp hkeys
    have hnew' : ∀ y ∈ xs, get? (insert (key x) (value x) m) (key y) = none := by
      intro y hy
      have hne : key x ≠ key y := fun heq => hx (heq ▸ List.mem_map_of_mem hy)
      rw [get?_insert hm, if_neg hne]
      exact hnew y (List.mem_cons_of_mem _ hy)
    rw [List.foldl_cons, ih hxs (sorted_insert hm _ _) hnew', get?_insert hm]
    by_cases hk : key x = k
    · subst hk
      simp [hnew x List.mem_cons_self]
    · simp [hk]

theorem sorted_ofList (pairs : List (κ × β)) : Sorted (ofList pairs) :=
  sorted_foldl_alter Prod.fst (fun e _ => e.2) pairs sorted_nil

/-- Of several values under one key the last one stays. -/
theorem get?_ofList (pairs : List (κ × β)) (k : κ) :
    get? (ofList pairs) k = ((pairs.filter fun e => e.1 = k).getLast?).map (·.2) := by
  have hfold : ∀ xs : List (κ × β), xs.foldl (fun _ x => some x.2) none = xs.getLast?.map (·.2) := by
    intro xs
    induction xs using List.reverseRecOn with
    | nil => rfl
    | append_singleton xs x _ => simp
  rw [← hfold]
  exact get?_foldl_alter Prod.fst (fun e _ => e.2) pairs sorted_nil k

theorem mem_of_get?_ofList {pairs : List (κ × β)} (h : get? (ofList pairs) k = some v) : (k, v) ∈ pairs := by
  rw [get?_ofList, Option.map_eq_some_iff] at h
  obtain ⟨⟨k', v'⟩, hlast, rfl⟩ := h
  obtain ⟨hmem, hk⟩ := List.mem_filter.mp (List.mem_of_getLast? hlast)
  rwa [← of_decide_eq_true hk]

theorem sorted_counts (ks : List κ) : Sorted (counts ks) :=
  sorted_foldl_alter id (fun _ n => n.getD 0 + 1) ks sorted_nil

theorem get?_counts (ks : List κ) (k : κ) :
    get? (counts ks) k = if k ∈ ks then some (ks.count k) else none := by
  have hfold : ∀ n, (List.replicate n k).foldl (fun old _ => some (old.getD 0 + 1)) (none : Option Nat) =
      if n = 0 then none else some n := by
    intro n
    induction n with
    | zero => rfl
    | succ n ih =>
      rw [List.replicate_succ', List.foldl_append, ih]
      cases n <;> simp
  have hlookup : get? (counts ks) k =
      (ks.filter fun x => x = k).foldl (fun old _ => some (old.getD 0 + 1)) none :=
    get?_foldl_alter id (fun _ n => n.getD 0 + 1) ks sorted_nil k
  rw [hlookup, List.filter_eq, hfold]
  simp only [List.count_eq_zero, ite_not]

omit [IsStrictTotalOrder κ (· < ·)] in
/-- All that is counted is counted once. -/
theorem total_counts (ks : List κ) : total (counts ks).values = ks.length := by
  have htotal := total_foldl_alter id (fun k : κ => k) (f := fun _ n => n.getD 0 + 1) (fun _ => rfl)
    (fun _ _ => rfl) ks []
  rw [List.map_id] at htotal
  rw [counts, htotal]
  simp [values]

theorem mem_of_mem_counts {ks : List κ} {n : Nat} (h : (k, n) ∈ counts ks) : k ∈ ks := by
  have hget := get?_of_mem (sorted_counts ks) h
  rw [get?_counts] at hget
  split at hget
  · assumption
  · cases hget

/-- How often keys occur does not depend on their order. -/
theorem counts_perm {ks ks' : List κ} (h : ks.Perm ks') : counts ks = counts ks' := by
  refine ext (sorted_counts ks) (sorted_counts ks') ?_
  intro k
  rw [get?_counts, get?_counts, h.count_eq]
  simp only [h.mem_iff]

theorem sorted_groups (pairs : List (κ × β)) : Sorted (groups pairs) :=
  sorted_foldl_alter Prod.fst (fun e vs => vs.getD [] ++ [e.2]) pairs sorted_nil

/-- A group holds what came with its key, in its order; a key that nothing came with has none. -/
theorem get?_groups (pairs : List (κ × β)) (k : κ) :
    get? (groups pairs) k =
      if (pairs.filter fun e => e.1 = k) = [] then none
      else some ((pairs.filter fun e => e.1 = k).map (·.2)) := by
  have hfold : ∀ xs : List (κ × β), xs.foldl (fun old x => some (old.getD [] ++ [x.2])) none =
      if xs = [] then none else some (xs.map (·.2)) := by
    intro xs
    induction xs using List.reverseRecOn with
    | nil => rfl
    | append_singleton xs x ih =>
      rw [List.foldl_append, ih]
      cases xs <;> simp
  rw [← hfold]
  exact get?_foldl_alter Prod.fst (fun e vs => vs.getD [] ++ [e.2]) pairs sorted_nil k

theorem getD_groups (pairs : List (κ × β)) (k : κ) :
    (get? (groups pairs) k).getD [] = (pairs.filter fun e => e.1 = k).map (·.2) := by
  rw [get?_groups]
  split
  case isTrue hnone =>
    rw [hnone]
    rfl
  case isFalse => rfl

/-- A group has a member, and all its members came with its key. -/
theorem of_mem_groups {pairs : List (κ × β)} {vs : List β} (h : (k, vs) ∈ groups pairs) :
    vs ≠ [] ∧ ∀ v ∈ vs, (k, v) ∈ pairs := by
  have hlookup := get?_of_mem (sorted_groups pairs) h
  rw [get?_groups] at hlookup
  split at hlookup
  case isTrue => cases hlookup
  case isFalse hne =>
    cases hlookup
    refine ⟨by simpa using hne, ?_⟩
    intro v hv
    obtain ⟨⟨k', v'⟩, hmem, rfl⟩ := List.mem_map.mp hv
    obtain ⟨hmem, hk⟩ := List.mem_filter.mp hmem
    rwa [← of_decide_eq_true hk]

end CodeAudit.Keyed
