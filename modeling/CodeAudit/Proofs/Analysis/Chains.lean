import CodeAudit.Analysis.Calling
import Mathlib.Data.List.Chain

/-! The search for a long chain of calls. What it finds below a function is said by recursion on the calls that
are still to be made (`firstChain?`), without a trail and without a budget; the search comes to this answer at
some cost, and a search that does not run out of its budget comes to the same answer with any larger one. -/
namespace CodeAudit.Calling

variable {callees : Nat → List Nat} {limit budget calls start t v : Nat} {above p q : List Nat}
  {trail : List (Nat × List Nat)}

/-- A chain of so many calls from a function on that reaches no function twice. -/
structure IsCallChain (callees : Nat → List Nat) (start calls : Nat) (p : List Nat) : Prop where
  starts : p.head? = some start
  length : p.length = calls + 1
  nodup : p.Nodup
  called : p.IsChain fun caller callee => callee ∈ callees caller

/-- Where two chains part, the callee of the first one is listed before that of the second one. -/
inductive TurnsBefore (callees : Nat → List Nat) : List Nat → List Nat → Prop where
  | here {v a b : Nat} {p q : List Nat} (h : (callees v).idxOf a < (callees v).idxOf b) :
    TurnsBefore callees (v :: a :: p) (v :: b :: q)
  | further {v : Nat} {p q : List Nat} (h : TurnsBefore callees p q) : TurnsBefore callees (v :: p) (v :: q)

theorem TurnsBefore.head?_eq (h : TurnsBefore callees p q) : p.head? = q.head? := by
  cases h <;> rfl

theorem TurnsBefore.asymm (h : TurnsBefore callees p q) : ¬ TurnsBefore callees q p := by
  intro hback
  induction h with
  | here hlt =>
    cases hback with
    | here hlt' => exact absurd hlt' hlt.asymm
    | further hback =>
      cases hback.head?_eq
      exact absurd hlt (Nat.lt_irrefl _)
  | further h ih =>
    cases hback with
    | here hlt' =>
      cases h.head?_eq
      exact absurd hlt' (Nat.lt_irrefl _)
    | further hback => exact ih hback

theorem isCallChain_zero_iff : IsCallChain callees v 0 p ↔ p = [v] := by
  constructor
  · rintro ⟨hstart, hlength, -, -⟩
    obtain ⟨w, rfl⟩ := List.length_eq_one_iff.mp hlength
    rw [Option.some.inj hstart]
  · rintro rfl
    exact ⟨rfl, rfl, by simp, List.isChain_singleton v⟩

theorem isCallChain_succ_iff : IsCallChain callees v (calls + 1) p ↔
    ∃ t rest, p = v :: rest ∧ t ∈ callees v ∧ v ∉ rest ∧ IsCallChain callees t calls rest := by
  constructor
  · rintro ⟨hstart, hlength, hnodup, hcalled⟩
    obtain ⟨rest, rfl⟩ := List.head?_eq_some_iff.mp hstart
    cases rest with
    | nil => simp at hlength
    | cons t rest =>
      obtain ⟨hmem, hrest⟩ := List.isChain_cons_cons.mp hcalled
      obtain ⟨hfresh, hnodup⟩ := List.nodup_cons.mp hnodup
      exact ⟨t, t :: rest, rfl, hmem, hfresh, rfl, Nat.succ.inj hlength, hnodup, hrest⟩
  · rintro ⟨t, rest, rfl, hmem, hfresh, hstart, hlength, hnodup, hcalled⟩
    obtain ⟨rest, rfl⟩ := List.head?_eq_some_iff.mp hstart
    exact ⟨rfl, congrArg (· + 1) hlength, List.nodup_cons.mpr ⟨hfresh, hnodup⟩,
      List.isChain_cons_cons.mpr ⟨hmem, hcalled⟩⟩

/-- The first chain of so many calls from a function on that leaves out the functions above it. -/
def firstChain? (callees : Nat → List Nat) : (calls : Nat) → (above : List Nat) → Nat → Option (List Nat)
  | 0, _, v => some [v]
  | calls + 1, above, v => (callees v).findSome? fun t =>
    if t ∈ v :: above then none else (firstChain? callees calls (v :: above) t).map (v :: ·)

/-- What the search has to go through below a callee of a function. -/
def chainThrough? (callees : Nat → List Nat) (calls : Nat) (above : List Nat) (v t : Nat) : Option (List Nat) :=
  if t ∈ v :: above then none else (firstChain? callees calls (v :: above) t).map (v :: ·)

theorem firstChain?_succ (callees : Nat → List Nat) (calls : Nat) (above : List Nat) (v : Nat) :
    firstChain? callees (calls + 1) above v = (callees v).findSome? (chainThrough? callees calls above v) := rfl

theorem chainThrough?_of_mem (h : t ∈ v :: above) : chainThrough? callees calls above v t = none := if_pos h

theorem chainThrough?_of_notMem (h : t ∉ v :: above) :
    chainThrough? callees calls above v t = (firstChain? callees calls (v :: above) t).map (v :: ·) := if_neg h

/-- A chain through a callee goes on from there without the function above. -/
theorem isCallChain_through_iff (hv : v ∉ above) :
    (IsCallChain callees v (calls + 1) p ∧ p.Disjoint above) ↔ ∃ t rest, p = v :: rest ∧ t ∈ callees v ∧
      IsCallChain callees t calls rest ∧ rest.Disjoint (v :: above) := by
  rw [isCallChain_succ_iff]
  constructor
  · rintro ⟨⟨t, rest, rfl, ht, hfresh, hrest⟩, hdisjoint⟩
    obtain ⟨-, hdisjoint⟩ := List.disjoint_cons_left.mp hdisjoint
    exact ⟨t, rest, rfl, ht, hrest, List.disjoint_cons_right.mpr ⟨hfresh, hdisjoint⟩⟩
  · rintro ⟨t, rest, rfl, ht, hrest, hdisjoint⟩
    obtain ⟨hfresh, hdisjoint⟩ := List.disjoint_cons_right.mp hdisjoint
    exact ⟨⟨t, rest, rfl, ht, hfresh, hrest⟩, List.disjoint_cons_left.mpr ⟨hv, hdisjoint⟩⟩

theorem IsCallChain.mem_start (h : IsCallChain callees v calls p) : v ∈ p := List.mem_of_head? h.starts

/-- No chain is missed. -/
theorem firstChain?_isSome (hv : v ∉ above) (hp : IsCallChain callees v calls p) (hdisjoint : p.Disjoint above) :
    (firstChain? callees calls above v).isSome = true := by
  induction calls generalizing above v p with
  | zero => rfl
  | succ calls ih =>
    obtain ⟨t, rest, rfl, ht, hrest, hdisjoint⟩ := (isCallChain_through_iff hv).mp ⟨hp, hdisjoint⟩
    have hfresh : t ∉ v :: above := hdisjoint hrest.mem_start
    rw [firstChain?_succ, List.findSome?_isSome_iff]
    refine ⟨t, ht, ?_⟩
    rw [chainThrough?_of_notMem hfresh, Option.isSome_map]
    exact ih hfresh hrest hdisjoint

theorem idxOf_lt_of_notMem {before after : List Nat} {t t' : Nat} (hlate : t' ∉ before) (hne : t' ≠ t) :
    (before ++ t :: after).idxOf t < (before ++ t :: after).idxOf t' := by
  have hle : (before ++ t :: after).idxOf t ≤ before.length := by
    rw [List.idxOf_append]
    split
    case isTrue hmem => exact (List.idxOf_lt_length_of_mem hmem).le
    case isFalse => simp
  rw [List.idxOf_append (a := t'), if_neg hlate, List.idxOf_cons_ne _ (Ne.symm hne)]
  omega

/-- What stands first among the chains is one of them, and parts from every other one by an earlier callee. -/
theorem firstChain?_eq_some (hv : v ∉ above) (h : firstChain? callees calls above v = some p) :
    (IsCallChain callees v calls p ∧ p.Disjoint above) ∧
      ∀ q, IsCallChain callees v calls q → q.Disjoint above → q ≠ p → TurnsBefore callees p q := by
  induction calls generalizing above v p with
  | zero =>
    cases h
    refine ⟨⟨isCallChain_zero_iff.mpr rfl, ?_⟩, fun q hq _ hne => absurd (isCallChain_zero_iff.mp hq) hne⟩
    exact List.disjoint_cons_left.mpr ⟨hv, List.disjoint_nil_left _⟩
  | succ calls ih =>
    -- the callees that come before the one that is taken lead to no chain
    rw [firstChain?_succ] at h
    obtain ⟨before, t, after, hcallees, ht, hbefore⟩ := List.findSome?_eq_some_iff.mp h
    have hfresh : t ∉ v :: above := by
      intro hmem
      rw [chainThrough?_of_mem hmem] at ht
      cases ht
    rw [chainThrough?_of_notMem hfresh] at ht
    obtain ⟨rest, hrest, rfl⟩ := Option.map_eq_some_iff.mp ht
    obtain ⟨⟨hchain, hdisjoint⟩, hfirst⟩ := ih hfresh hrest
    have htmem : t ∈ callees v := by simp [hcallees]
    refine ⟨(isCallChain_through_iff hv).mpr ⟨t, rest, rfl, htmem, hchain, hdisjoint⟩, fun q hq hqdisjoint hne => ?_⟩
    obtain ⟨t', rest', rfl, ht', hchain', hdisjoint'⟩ := (isCallChain_through_iff hv).mp ⟨hq, hqdisjoint⟩
    by_cases hsame : t' = t
    · subst hsame
      exact .further (hfirst rest' hchain' hdisjoint' fun heq => hne (congrArg (v :: ·) heq))
    · obtain ⟨p', rfl⟩ := List.head?_eq_some_iff.mp hchain.starts
      obtain ⟨q', rfl⟩ := List.head?_eq_some_iff.mp hchain'.starts
      have hlate : t' ∉ before := by
        intro hmem
        have hfresh' : t' ∉ v :: above := hdisjoint' hchain'.mem_start
        have hnone := hbefore t' hmem
        rw [chainThrough?_of_notMem hfresh', Option.map_eq_none_iff] at hnone
        have hsome := firstChain?_isSome hfresh' hchain' hdisjoint'
        rw [hnone] at hsome
        cases hsome
      refine .here ?_
      rw [hcallees]
      exact idxOf_lt_of_notMem hlate hsame

theorem longestChain_eq (h : limit + 1 < bound64) : longestChain limit = limit + 1 := Nat.mod_eq_of_lt h

/-- A trail that is not long enough yet costs one of the budget and goes on. -/
theorem searchChain_step (callees : Nat → List Nat) (hdepth : trail.length < longestChain limit) (budget v : Nat)
    (todo : List Nat) :
    searchChain callees limit (budget + 1) ((v, todo) :: trail) =
      match todo with
      | [] => searchChain callees limit budget trail
      | t :: ts =>
        if t ∈ v :: trail.map (·.1) then searchChain callees limit budget ((v, ts) :: trail)
        else searchChain callees limit budget ((t, callees t) :: (v, ts) :: trail) := by
  have hshort : ¬ longestChain limit < ((v, todo) :: trail).length := by
    rw [List.length_cons]
    omega
  rw [searchChain.eq_def]
  cases todo <;> exact if_neg hshort

/-- A trail that is long enough is what was looked for, whatever is left of the budget. -/
theorem searchChain_of_long (hdepth : longestChain limit < trail.length) (budget : Nat) :
    searchChain callees limit budget trail = .found (trail.map (·.1)).reverse := by
  cases trail with
  | nil => simp at hdepth
  | cons top rest =>
    rw [searchChain.eq_def]
    cases budget <;> simp only [if_pos hdepth]

/-- The answer of a search that looks for a chain below a trail and else goes on with the trail. -/
def answer (callees : Nat → List Nat) (limit budget : Nat) (trail : List (Nat × List Nat)) :
    Option (List Nat) → ChainSearch
  | some p => .found ((trail.map (·.1)).reverse ++ p)
  | none => searchChain callees limit budget trail

/-- The search comes to its answer on a function at some cost. -/
def Explores (callees : Nat → List Nat) (limit calls : Nat) : Prop :=
  ∀ t trail, trail.length + calls = longestChain limit → ∃ cost, ∀ budget,
    searchChain callees limit (budget + cost) ((t, callees t) :: trail) =
      answer callees limit budget trail (firstChain? callees calls (trail.map (·.1)) t)

/-- If callees are explored, so is what is still to be followed of them. -/
theorem Explores.todo (h : Explores callees limit calls) (hdepth : trail.length + calls + 1 = longestChain limit) (v : Nat)
    (todo : List Nat) : ∃ cost, ∀ budget, searchChain callees limit (budget + cost) ((v, todo) :: trail) =
      answer callees limit budget trail (todo.findSome? (chainThrough? callees calls (trail.map (·.1)) v)) := by
  have hstep := fun budget => searchChain_step callees (show trail.length < longestChain limit by omega) budget v
  induction todo with
  | nil => exact ⟨1, fun budget => hstep budget []⟩
  | cons t ts ih =>
    obtain ⟨rest, hrest⟩ := ih
    by_cases hmem : t ∈ v :: trail.map (·.1)
    · refine ⟨rest + 1, fun budget => ?_⟩
      rw [← Nat.add_assoc, hstep, List.findSome?_cons, chainThrough?_of_mem hmem]
      simpa only [if_pos hmem] using hrest budget
    · obtain ⟨below, hbelow⟩ := h t ((v, ts) :: trail) (by rw [List.length_cons]; omega)
      refine ⟨rest + below + 1, fun budget => ?_⟩
      rw [← Nat.add_assoc, hstep, List.findSome?_cons, chainThrough?_of_notMem hmem]
      simp only [if_neg hmem]
      rw [← Nat.add_assoc, hbelow, List.map_cons]
      cases firstChain? callees calls (v :: trail.map (·.1)) t with
      | none => exact hrest budget
      | some p => simp [answer]

theorem explores (callees : Nat → List Nat) (limit calls : Nat) : Explores callees limit calls := by
  induction calls with
  | zero =>
    intro t trail hdepth
    refine ⟨0, fun budget => ?_⟩
    rw [searchChain_of_long (by rw [List.length_cons]; omega)]
    simp [firstChain?, answer]
  | succ calls ih => exact fun t trail hdepth => ih.todo (by omega) t (callees t)

/-- A larger budget changes nothing for a search that comes to its end. -/
theorem searchChain_add (h : searchChain callees limit budget trail ≠ .exhausted) (more : Nat) :
    searchChain callees limit (budget + more) trail = searchChain callees limit budget trail := by
  induction budget generalizing trail with
  | zero =>
    cases trail with
    | nil => simp [searchChain.eq_def]
    | cons top rest =>
      by_cases hlong : longestChain limit < (top :: rest).length
      · simp only [searchChain_of_long hlong]
      · rw [searchChain.eq_def] at h
        exact absurd (if_neg hlong) h
  | succ budget ih =>
    cases trail with
    | nil => simp [searchChain.eq_def]
    | cons top rest =>
      obtain ⟨v, todo⟩ := top
      by_cases hlong : longestChain limit < ((v, todo) :: rest).length
      · simp only [searchChain_of_long hlong]
      · have hdepth : rest.length < longestChain limit := by
          rw [List.length_cons] at hlong
          omega
        rw [Nat.add_right_comm]
        simp only [searchChain_step callees hdepth] at h ⊢
        cases todo with
        | nil => exact ih h
        | cons t ts =>
          by_cases hmem : t ∈ v :: rest.map (·.1)
          · simp only [if_pos hmem] at h ⊢
            exact ih h
          · simp only [if_neg hmem] at h ⊢
            exact ih h

/-- From a start on, the search comes to the first chain. -/
theorem searchChain_start (callees : Nat → List Nat) (limit start : Nat) : ∃ cost, ∀ budget,
    searchChain callees limit (budget + cost) [(start, callees start)] =
      match firstChain? callees (longestChain limit) [] start with
      | some p => .found p
      | none => .absent := by
  obtain ⟨cost, hcost⟩ := explores callees limit (longestChain limit) start [] (Nat.zero_add _)
  refine ⟨cost, fun budget => ?_⟩
  rw [hcost, List.map_nil]
  cases firstChain? callees (longestChain limit) [] start with
  | none => simp [answer, searchChain.eq_def]
  | some p => rfl

/-- A search that comes to its end has found the first chain, if there is one. -/
theorem deepChain?_eq_firstChain? (h : searchChain callees limit budget [(start, callees start)] ≠ .exhausted) :
    deepChain? callees limit budget start = firstChain? callees (longestChain limit) [] start := by
  obtain ⟨cost, hcost⟩ := searchChain_start callees limit start
  rw [deepChain?, ← searchChain_add h cost, hcost]
  cases firstChain? callees (longestChain limit) [] start <;> rfl

theorem ne_exhausted_of_deepChain? (h : deepChain? callees limit budget start = some p) :
    searchChain callees limit budget [(start, callees start)] ≠ .exhausted := by
  intro hexhausted
  rw [deepChain?, hexhausted] at h
  cases h

/-- What stands first among all chains from a start on. -/
theorem firstChain?_eq_some_iff : firstChain? callees calls [] start = some p ↔
    IsCallChain callees start calls p ∧
      ∀ q, IsCallChain callees start calls q → q ≠ p → TurnsBefore callees p q := by
  have hdisjoint (q : List Nat) : q.Disjoint [] := List.disjoint_nil_right q
  constructor
  · intro h
    obtain ⟨⟨hchain, -⟩, hfirst⟩ := firstChain?_eq_some List.not_mem_nil h
    exact ⟨hchain, fun q hq hne => hfirst q hq (hdisjoint q) hne⟩
  · rintro ⟨hchain, hfirst⟩
    obtain ⟨p', hp'⟩ := Option.isSome_iff_exists.mp
      (firstChain?_isSome List.not_mem_nil hchain (hdisjoint p))
    obtain ⟨⟨hchain', -⟩, hfirst'⟩ := firstChain?_eq_some List.not_mem_nil hp'
    by_cases hsame : p' = p
    · rw [hp', hsame]
    · exact absurd (hfirst' p hchain (hdisjoint p) (Ne.symm hsame)) (hfirst p' hchain' hsame).asymm

/-- What is found is a chain, whatever is left of the budget. -/
theorem isCallChain_of_deepChain? (h : deepChain? callees limit budget start = some p) :
    IsCallChain callees start (longestChain limit) p := by
  have hfirst := h
  rw [deepChain?_eq_firstChain? (ne_exhausted_of_deepChain? h)] at hfirst
  exact (firstChain?_eq_some_iff.mp hfirst).1

/-- What is found is a chain of one call more than the limit allows, if the limit is not the largest number of 64 bits.
Unless the budget runs out, a chain is found exactly when there is one, and it is the one that turns before all others.
No start needs more than some budget. -/
theorem deepChain?_exact (callees : Nat → List Nat) {limit : Nat} (hlimit : limit + 1 < bound64) (budget start : Nat) :
    (∀ p, deepChain? callees limit budget start = some p →
      IsCallChain callees start (limit + 1) p ∧ p.length = limit + 2) ∧
    (searchChain callees limit budget [(start, callees start)] ≠ .exhausted →
      ((deepChain? callees limit budget start).isSome = true ↔ ∃ p, IsCallChain callees start (limit + 1) p) ∧
      ∀ p, deepChain? callees limit budget start = some p ↔ IsCallChain callees start (limit + 1) p ∧
        ∀ q, IsCallChain callees start (limit + 1) q → q ≠ p → TurnsBefore callees p q) ∧
    ∃ enough, ∀ budget, enough ≤ budget →
      searchChain callees limit budget [(start, callees start)] ≠ .exhausted := by
  have hlongest : longestChain limit = limit + 1 := longestChain_eq hlimit
  rw [← hlongest]
  refine ⟨fun p hp => ?_, fun hends => ⟨⟨fun hsome => ?_, ?_⟩, fun p => ?_⟩, ?_⟩
  · have hchain := isCallChain_of_deepChain? hp
    exact ⟨hchain, by rw [hchain.length, hlongest]⟩
  · obtain ⟨p, hp⟩ := Option.isSome_iff_exists.mp hsome
    exact ⟨p, isCallChain_of_deepChain? hp⟩
  · rintro ⟨p, hp⟩
    rw [deepChain?_eq_firstChain? hends]
    exact firstChain?_isSome List.not_mem_nil hp (List.disjoint_nil_right p)
  · rw [deepChain?_eq_firstChain? hends]
    exact firstChain?_eq_some_iff
  · obtain ⟨cost, hcost⟩ := searchChain_start callees limit start
    refine ⟨cost, fun budget hle => ?_⟩
    rw [← Nat.sub_add_cancel hle, hcost]
    cases firstChain? callees (longestChain limit) [] start <;> nofun

/-- Two ways end in cycles before a third one gets long enough; a budget of three steps does not get there. -/
theorem chain_after_two_cycles :
    let callees := fun i => [[1, 2], [0], [1, 3], [0, 4], []].getD i []
    2 + 1 < bound64 ∧ searchChain callees 2 20 [(0, callees 0)] ≠ .exhausted ∧
    deepChain? callees 2 20 0 = some [0, 2, 3, 4] ∧
    IsCallChain callees 0 3 [0, 2, 3, 4] ∧
    (∀ q, IsCallChain callees 0 3 q → q ≠ [0, 2, 3, 4] → TurnsBefore callees [0, 2, 3, 4] q) ∧
    deepChain? callees 2 3 0 = none ∧ searchChain callees 2 3 [(0, callees 0)] = .exhausted := by
  intro callees
  have hends : searchChain callees 2 20 [(0, callees 0)] ≠ .exhausted := by decide
  have hfound : deepChain? callees 2 20 0 = some [0, 2, 3, 4] := by decide
  obtain ⟨-, hexact⟩ := (deepChain?_exact callees (by decide) 20 0).2.1 hends
  obtain ⟨hchain, hfirst⟩ := (hexact _).mp hfound
  exact ⟨by decide, hends, hfound, hchain, hfirst, by decide, by decide⟩

end CodeAudit.Calling
