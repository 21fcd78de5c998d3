import CodeAudit.Regex.Search
import Mathlib.Data.List.Count

/-! A search tries every state of the machine once at most and still finds what there is to find. A state that was tried
in vain leads nowhere: all that it leads to has been tried as well. So what is marked is closed under the steps of the
machine, and to pass over it loses no match, neither within one attempt nor from one position to the next. -/
namespace CodeAudit.Regex

/-- An instruction and a position in the text. -/
abbrev State := Nat × Nat

/-- The character in front of a position. -/
def charBefore? (text : Array Char) (pos : Nat) : Option Char := if pos = 0 then none else text[pos - 1]?

/-- The states that an instruction leads to. -/
def Instr.successors (text : Array Char) (pos : Nat) : Instr → List State
  | .jump next => [(next, pos)]
  | .split a b => [(a, pos), (b, pos)]
  | .save _ next => [(next, pos)]
  | .look l next => if l.holds (charBefore? text pos) text[pos]? then [(next, pos)] else []
  | .char p next => if text[pos]?.any p then [(next, pos + 1)] else []
  | .done => []

def successors (code : Code) (text : Array Char) (s : State) : List State :=
  match code[s.1]? with
  | some i => i.successors text s.2
  | none => []

/-- The end of the program is at most `n` steps away. -/
inductive Accepts (code : Code) (text : Array Char) : Nat → State → Prop
  | done {n : Nat} {s : State} (h : code[s.1]? = some .done) : Accepts code text n s
  | step {n : Nat} {s t : State} (ht : t ∈ successors code text s) (h : Accepts code text n t) :
      Accepts code text (n + 1) s

/-- The states that are still to be tried. -/
def visits (jobs : List Job) : List State :=
  jobs.filterMap fun
    | .visit i pos => some (i, pos)
    | .restore _ _ => none

/-- Where the mark of a state is kept. -/
def State.key (text : Array Char) (s : State) : Nat := s.1 * (text.size + 1) + s.2

/-- A state that is not tried any more. -/
def Seen (text : Array Char) (visited : Array Bool) (s : State) : Prop := visited.getD (s.key text) true = true

/-- What has been tried leads only to what has been tried as well or will be. -/
structure Closed (code : Code) (text : Array Char) (visited : Array Bool) (pending : List State) : Prop where
  size : visited.size = code.size * (text.size + 1)
  within : ∀ s ∈ pending, s.2 ≤ text.size
  vain : ∀ s : State, s.2 ≤ text.size → Seen text visited s → code[s.1]? ≠ some .done
  leads : ∀ s : State, s.2 ≤ text.size → Seen text visited s →
    ∀ t ∈ successors code text s, Seen text visited t ∨ t ∈ pending

variable {code : Code} {text : Array Char} {visited : Array Bool} {pending : List State} {s t : State} {n : Nat}

theorem successors_eq {i : Instr} (h : code[s.1]? = some i) : successors code text s = i.successors text s.2 := by
  rw [successors, h]

theorem successors_within (hs : s.2 ≤ text.size) (ht : t ∈ successors code text s) : t.2 ≤ text.size := by
  unfold successors at ht
  cases hcode : code[s.1]? with
  | none => simp [hcode] at ht
  | some i =>
    rw [hcode] at ht
    cases i with
    | jump next => simp_all [Instr.successors]
    | split a b =>
      simp only [Instr.successors, List.mem_cons, List.not_mem_nil, or_false] at ht
      rcases ht with rfl | rfl <;> exact hs
    | save slot next => simp_all [Instr.successors]
    | look l next =>
      simp only [Instr.successors, List.mem_ite_nil_right, List.mem_singleton] at ht
      rw [ht.2]
      exact hs
    | char p next =>
      simp only [Instr.successors, List.mem_ite_nil_right, List.mem_singleton] at ht
      obtain ⟨hchar, rfl⟩ := ht
      obtain ⟨c, hc, -⟩ := (Option.any_eq_true _ _).mp hchar
      exact (Array.getElem?_eq_some_iff.mp hc).1
    | done => cases ht

section Marks

theorem not_seen_iff : ¬ Seen text visited s ↔ visited[s.key text]? = some false := by
  rw [Seen, Array.getD_eq_getD_getElem?]
  cases visited[s.key text]? with
  | none => simp
  | some b => cases b <;> simp

theorem key_injective (hs : s.2 ≤ text.size) (ht : t.2 ≤ text.size) (h : s.key text = t.key text) : s = t := by
  have hfirst {s : State} (hs : s.2 ≤ text.size) : s.key text / (text.size + 1) = s.1 := by
    rw [State.key, Nat.mul_comm, Nat.mul_add_div (Nat.succ_pos _), Nat.div_eq_of_lt (Nat.lt_succ_of_le hs), Nat.add_zero]
  have hinstr : s.1 = t.1 := by rw [← hfirst hs, h, hfirst ht]
  have hpos : s.2 = t.2 := by
    rw [State.key, State.key, hinstr] at h
    exact Nat.add_left_cancel h
  exact Prod.ext hinstr hpos

theorem seen_set_iff (hs : s.2 ≤ text.size) (ht : t.2 ≤ text.size) (hnew : ¬ Seen text visited s) :
    Seen text (visited.setIfInBounds (s.key text) true) t ↔ Seen text visited t ∨ t = s := by
  have hlt := (Array.getElem?_eq_some_iff.mp (not_seen_iff.mp hnew)).1
  by_cases hkey : s.key text = t.key text
  · obtain rfl := key_injective hs ht hkey
    simp [Seen, Array.getD_eq_getD_getElem?, hlt]
  · have hne : t ≠ s := fun h => hkey (h ▸ rfl)
    simp [Seen, Array.getD_eq_getD_getElem?, Array.getElem?_setIfInBounds_ne hkey, hne]

/-- How many marks are left to set. -/
def unseen (visited : Array Bool) : Nat := visited.toList.count false

theorem unseen_set (hnew : ¬ Seen text visited s) :
    unseen (visited.setIfInBounds (s.key text) true) + 1 = unseen visited := by
  obtain ⟨hlt, hfalse⟩ := Array.getElem?_eq_some_iff.mp (not_seen_iff.mp hnew)
  have hcount : 0 < visited.toList.count false := List.count_pos_iff.mpr (hfalse ▸ Array.getElem_mem_toList hlt)
  rw [unseen, unseen, Array.toList_setIfInBounds, List.count_set (by simpa using hlt)]
  rw [Array.getElem_toList, hfalse]
  show visited.toList.count false - 1 + 0 + 1 = visited.toList.count false
  omega

end Marks

section Run

variable {fuel i pos : Nat} {jobs : List Job} {slots : Array (Option Nat)}

theorem run_visit_seen (h : Seen text visited (i, pos)) : run code text (fuel + 1) (.visit i pos :: jobs) ⟨visited, slots⟩ =
    run code text fuel jobs ⟨visited, slots⟩ := by
  rw [run]
  exact if_pos h

theorem run_visit_done (h : ¬ Seen text visited (i, pos)) (hdone : code[i]? = some .done) :
    (run code text (fuel + 1) (.visit i pos :: jobs) ⟨visited, slots⟩).1 = true := by
  have hnew : ¬ visited.getD (i * (text.size + 1) + pos) true = true := h
  rw [run]
  dsimp only
  rw [if_neg hnew, hdone]

/-- A state that is tried for the first time is marked, and what it leads to comes next. -/
theorem run_visit_new (fuel : Nat) (jobs : List Job) (slots : Array (Option Nat))
    (h : ¬ Seen text visited (i, pos)) (hnot : code[i]? ≠ some .done) :
    ∃ (pushed : List Job) (slots' : Array (Option Nat)), visits pushed = successors code text (i, pos) ∧ pushed.length ≤ 2 ∧
      run code text (fuel + 1) (.visit i pos :: jobs) ⟨visited, slots⟩ =
        run code text fuel (pushed ++ jobs) ⟨visited.setIfInBounds (State.key text (i, pos)) true, slots'⟩ := by
  have hnew : ¬ visited.getD (i * (text.size + 1) + pos) true = true := h
  rw [run, successors]
  dsimp only
  rw [if_neg hnew]
  cases hcode : code[i]? with
  | none => exact ⟨[], slots, rfl, by simp, rfl⟩
  | some instr =>
    cases instr with
    | done => exact absurd hcode hnot
    | jump next => exact ⟨[.visit next pos], slots, rfl, by simp, rfl⟩
    | split a b => exact ⟨[.visit a pos, .visit b pos], slots, rfl, by simp, rfl⟩
    | save slot next => exact ⟨[.visit next pos, .restore slot _], _, rfl, by simp, rfl⟩
    | look l next =>
      by_cases hholds : l.holds (charBefore? text pos) text[pos]?
      · refine ⟨[.visit next pos], slots, ?_, by simp, if_pos hholds⟩
        simp [Instr.successors, hholds, visits]
      · refine ⟨[], slots, ?_, by simp, if_neg hholds⟩
        simp [Instr.successors, hholds, visits]
    | char p next =>
      cases hchar : text[pos]? with
      | none => exact ⟨[], slots, by simp [Instr.successors, hchar, visits], by simp, by simp [State.key]⟩
      | some c =>
        by_cases hc : p c
        · exact ⟨[.visit next (pos + 1)], slots, by simp [Instr.successors, hchar, hc, visits], by simp,
            by simp [hc, State.key]⟩
        · exact ⟨[], slots, by simp [Instr.successors, hchar, hc, visits], by simp, by simp [hc, State.key]⟩

@[simp]
theorem visits_append (xs ys : List Job) : visits (xs ++ ys) = visits xs ++ visits ys := List.filterMap_append

@[simp]
theorem visits_visit (i pos : Nat) (jobs : List Job) : visits (.visit i pos :: jobs) = (i, pos) :: visits jobs := rfl

/-- Trying a state keeps what is marked closed. -/
theorem Closed.visit (h : Closed code text visited (s :: pending)) (hnew : ¬ Seen text visited s)
    (hnot : code[s.1]? ≠ some .done) :
    Closed code text (visited.setIfInBounds (s.key text) true) (successors code text s ++ pending) := by
  have hs := h.within s List.mem_cons_self
  constructor
  · rw [Array.size_setIfInBounds, h.size]
  · intro t ht
    rcases List.mem_append.mp ht with ht | ht
    · exact successors_within hs ht
    · exact h.within t (List.mem_cons_of_mem s ht)
  · intro t ht hseen
    rcases (seen_set_iff hs ht hnew).mp hseen with hseen | rfl
    · exact h.vain t ht hseen
    · exact hnot
  · intro t ht hseen t' ht'
    have hwithin := successors_within ht ht'
    rw [seen_set_iff hs hwithin hnew, List.mem_append]
    rcases (seen_set_iff hs ht hnew).mp hseen with hseen | rfl
    · rcases h.leads t ht hseen t' ht' with hold | hmem
      · exact .inl (.inl hold)
      · rcases List.mem_cons.mp hmem with rfl | hmem
        · exact .inl (.inr rfl)
        · exact .inr (.inr hmem)
    · exact .inr (.inl ht')

theorem Closed.seen (h : Closed code text visited (s :: pending)) (hseen : Seen text visited s) :
    Closed code text visited pending := by
  refine ⟨h.size, fun t ht => h.within t (List.mem_cons_of_mem s ht), h.vain, ?_⟩
  intro t ht hseen' t' ht'
  rcases h.leads t ht hseen' t' ht' with hold | hmem
  · exact .inl hold
  · rcases List.mem_cons.mp hmem with rfl | hmem
    · exact .inl hseen
    · exact .inr hmem

/-- What comes out of a run over pending states: the end of the program is reached from one of them, or all of them are
tried in vain. -/
def Outcome (code : Code) (text : Array Char) (visited : Array Bool) (pending : List State) (r : Bool × Machine) : Prop :=
  (r.1 = true ∧ ∃ s ∈ pending, ∃ n, Accepts code text n s) ∨
    (r.1 = false ∧ Closed code text r.2.visited [] ∧
      ∀ s, s.2 ≤ text.size → Seen text visited s ∨ s ∈ pending → Seen text r.2.visited s)

variable {r : Bool × Machine}

theorem Outcome.seen (h : Outcome code text visited pending r) (hseen : Seen text visited s) :
    Outcome code text visited (s :: pending) r := by
  rcases h with ⟨htrue, t, ht, haccepts⟩ | ⟨hfalse, hclosed, hall⟩
  · exact .inl ⟨htrue, t, List.mem_cons_of_mem s ht, haccepts⟩
  · refine .inr ⟨hfalse, hclosed, fun t ht h => hall t ht ?_⟩
    rcases h with h | h
    · exact .inl h
    · rcases List.mem_cons.mp h with rfl | h
      · exact .inl hseen
      · exact .inr h

/-- What comes out when a state is tried is what comes out of its successors. -/
theorem Outcome.visit (hs : s.2 ≤ text.size) (hnew : ¬ Seen text visited s)
    (h : Outcome code text (visited.setIfInBounds (s.key text) true) (successors code text s ++ pending) r) :
    Outcome code text visited (s :: pending) r := by
  rcases h with ⟨htrue, t, ht, n, haccepts⟩ | ⟨hfalse, hclosed, hall⟩
  · rcases List.mem_append.mp ht with ht | ht
    · exact .inl ⟨htrue, s, List.mem_cons_self, n + 1, .step ht haccepts⟩
    · exact .inl ⟨htrue, t, List.mem_cons_of_mem s ht, n, haccepts⟩
  · refine .inr ⟨hfalse, hclosed, fun t ht h => hall t ht ?_⟩
    rw [seen_set_iff hs ht hnew, List.mem_append]
    rcases h with h | h
    · exact .inl (.inl h)
    · rcases List.mem_cons.mp h with rfl | h
      · exact .inl (.inr rfl)
      · exact .inr (.inr h)

/-- A run with enough fuel reaches the end of the program from one of the states it was given, or it tries them all in
vain. -/
theorem run_spec {m : Machine} (hclosed : Closed code text m.visited (visits jobs))
    (hfuel : jobs.length + 2 * unseen m.visited ≤ fuel) :
    Outcome code text m.visited (visits jobs) (run code text fuel jobs m) := by
  induction fuel generalizing jobs m with
  | zero =>
    obtain rfl : jobs = [] := List.eq_nil_of_length_eq_zero (by omega)
    exact .inr ⟨rfl, hclosed, fun s _ h => h.resolve_right List.not_mem_nil⟩
  | succ fuel ih =>
    obtain ⟨visited, slots⟩ := m
    match jobs with
    | [] => exact .inr ⟨rfl, hclosed, fun s _ h => h.resolve_right List.not_mem_nil⟩
    | .restore slot value :: jobs =>
      rw [List.length_cons] at hfuel
      exact ih (m := ⟨visited, slots.setIfInBounds slot value⟩) hclosed (by dsimp only at hfuel ⊢; omega)
    | .visit i pos :: jobs =>
      rw [List.length_cons] at hfuel
      dsimp only at hfuel hclosed
      rw [visits_visit] at hclosed ⊢
      by_cases hseen : Seen text visited (i, pos)
      · rw [run_visit_seen hseen]
        exact (ih (m := ⟨visited, slots⟩) (hclosed.seen hseen) (by dsimp only; omega)).seen hseen
      by_cases hdone : code[i]? = some .done
      · exact .inl ⟨run_visit_done hseen hdone, (i, pos), List.mem_cons_self, 0, .done hdone⟩
      · obtain ⟨pushed, slots', hpushed, hlength, hrun⟩ := run_visit_new fuel jobs slots hseen hdone
        have hleft := unseen_set hseen
        have hnext := hclosed.visit hseen hdone
        rw [← hpushed, ← visits_append] at hnext
        have houtcome := ih (m := ⟨visited.setIfInBounds (State.key text (i, pos)) true, slots'⟩) hnext
          (by rw [List.length_append]; dsimp only; omega)
        rw [visits_append, hpushed] at houtcome
        rw [hrun]
        exact houtcome.visit (hclosed.within (i, pos) List.mem_cons_self) hseen

end Run

section Search

variable {r : Program} {m : Machine} {left pos : Nat}

/-- Nothing that was tried in vain leads to the end of the program. -/
theorem Closed.not_accepts (h : Closed code text visited []) (hs : s.2 ≤ text.size) (hseen : Seen text visited s) :
    ¬ Accepts code text n s := by
  intro haccepts
  induction haccepts with
  | done hdone => exact h.vain _ hs hseen hdone
  | step ht _ ih =>
    have hnext := (h.leads _ hs hseen _ ht).resolve_right List.not_mem_nil
    exact ih (successors_within hs ht) hnext

/-- One more state can be tried after others were tried in vain. -/
theorem Closed.cons (h : Closed code text visited []) (hs : s.2 ≤ text.size) : Closed code text visited [s] := by
  refine ⟨h.size, ?_, h.vain, fun t ht hseen t' ht' => .inl ?_⟩
  · intro t ht
    rw [List.mem_singleton.mp ht]
    exact hs
  · exact (h.leads t ht hseen t' ht').resolve_right List.not_mem_nil

/-- The fuel of an attempt is enough for all marks. -/
theorem unseen_le (hsize : visited.size = code.size * (text.size + 1)) :
    1 + 2 * unseen visited ≤ 3 * code.size * (text.size + 1) + 3 := by
  have hle : unseen visited ≤ visited.size := by
    rw [← Array.length_toList]
    exact List.count_le_length
  rw [hsize] at hle
  rw [Nat.mul_assoc]
  omega

/-- The positions are tried from left to right until the end of the program can be reached from one of them. -/
theorem searchFrom_isSome_iff (hclosed : Closed r.code text m.visited []) (hpos : pos + left ≤ text.size + 1) :
    (searchFrom r text left pos m).isSome ↔ ∃ p, pos ≤ p ∧ p < pos + left ∧ ∃ n, Accepts r.code text n (r.start, p) := by
  induction left generalizing pos m with
  | zero =>
    refine iff_of_false (by simp [searchFrom]) ?_
    rintro ⟨p, hle, hlt, -⟩
    omega
  | succ left ih =>
    have hwithin : pos ≤ text.size := by omega
    have hstart : Closed r.code text m.visited (visits [.visit r.start pos]) := hclosed.cons hwithin
    have houtcome := run_spec hstart (unseen_le hclosed.size)
    rw [searchFrom]
    generalize run r.code text _ _ m = outcome at houtcome
    obtain ⟨found, m'⟩ := outcome
    rcases houtcome with ⟨htrue, s, hs, n, haccepts⟩ | ⟨hfalse, hclosed', hall⟩
    · -- an attempt that succeeds began at this position
      obtain rfl : s = (r.start, pos) := List.mem_singleton.mp hs
      obtain rfl : found = true := htrue
      exact iff_of_true rfl ⟨pos, Nat.le_refl pos, by omega, n, haccepts⟩
    · have hvain : ¬ ∃ n, Accepts r.code text n (r.start, pos) := by
        rintro ⟨n, haccepts⟩
        exact hclosed'.not_accepts hwithin (hall _ hwithin (.inr List.mem_cons_self)) haccepts
      obtain rfl : found = false := hfalse
      dsimp only
      rw [ih hclosed' (by omega)]
      constructor
      · rintro ⟨p, hle, hlt, haccepts⟩
        exact ⟨p, by omega, by omega, haccepts⟩
      · rintro ⟨p, hle, hlt, haccepts⟩
        rcases Nat.eq_or_lt_of_le hle with rfl | hgt
        · exact absurd haccepts hvain
        · exact ⟨p, hgt, by omega, haccepts⟩

theorem closed_nothing (code : Code) (text : Array Char) :
    Closed code text (Array.replicate (code.size * (text.size + 1)) false) [] := by
  have hnone {s : State} (hs : s.2 ≤ text.size) (hseen : Seen text (Array.replicate (code.size * (text.size + 1)) false) s) :
      code[s.1]? = none := by
    rw [Array.getElem?_eq_none_iff]
    by_contra hlt
    have hkey : s.key text < code.size * (text.size + 1) := by
      have hmul := Nat.mul_le_mul_right (text.size + 1) (Nat.not_le.mp hlt)
      rw [Nat.succ_mul] at hmul
      rw [State.key]
      omega
    simp [Seen, Array.getD_eq_getD_getElem?, hkey] at hseen
  refine ⟨by simp, by simp, ?_, ?_⟩
  · intro s hs hseen
    rw [hnone hs hseen]
    simp
  · intro s hs hseen t ht
    rw [successors, hnone hs hseen] at ht
    cases ht

/-- A search from a position on finds a match if and only if the end of the program can be reached from there or from
a later position. -/
theorem findFrom?_isSome_iff {r : Regex} (hpos : pos ≤ text.size) : (r.findFrom? text pos).isSome ↔
    ∃ p, pos ≤ p ∧ p ≤ text.size ∧ ∃ n, Accepts r.program.code text n (r.program.start, p) := by
  rw [findFrom?, searchFrom_isSome_iff (closed_nothing _ text) (by omega)]
  refine exists_congr fun p => and_congr_right fun hle => and_congr_left fun _ => ?_
  omega

end Search

end CodeAudit.Regex
