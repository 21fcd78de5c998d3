import CodeAudit.Proofs.Regex.Search

/-! What a pattern matches, by its parts, and that a search for it finds just that. The code of a pattern is laid out from
the end to the beginning, and a part of it goes on at an address that was there before; so a part is right whatever comes
later, if only its own instructions stay as they are. -/
namespace CodeAudit.Regex

/-- So many rounds of a relation between positions. -/
def Rounds (R : Nat → Nat → Prop) : Nat → Nat → Nat → Prop
  | 0, i, j => j = i
  | n + 1, i, j => ∃ k, R i k ∧ Rounds R n k j

/-- The pattern matches the text from one position up to another. -/
def Pattern.Matches (text : Array Char) : Pattern → Nat → Nat → Prop
  | empty, i, j => j = i
  | set p _, i, j => j = i + 1 ∧ text[i]?.any p
  | look l, i, j => j = i ∧ l.holds (charBefore? text i) text[i]?
  | cat a b, i, j => ∃ k, a.Matches text i k ∧ b.Matches text k j
  | alt a b, i, j => a.Matches text i j ∨ b.Matches text i j
  | rep least most _ p, i, j =>
    ∃ n, least ≤ n ∧ (∀ m, most = some m → n ≤ max least m) ∧ Rounds (p.Matches text) n i j
  | group _ p, i, j => p.Matches text i j

section Rounds

variable {R S : Nat → Nat → Prop} {m n i j k : Nat}

theorem rounds_add : Rounds R (m + n) i j ↔ ∃ k, Rounds R m i k ∧ Rounds R n k j := by
  induction m generalizing i with
  | zero => simp [Rounds]
  | succ m ih =>
    rw [Nat.add_right_comm]
    simp only [Rounds, ih]
    constructor
    · rintro ⟨a, ha, b, hb, hj⟩
      exact ⟨b, ⟨a, ha, hb⟩, hj⟩
    · rintro ⟨b, ⟨a, ha, hb⟩, hj⟩
      exact ⟨a, ha, b, hb, hj⟩

theorem rounds_one : Rounds R 1 i j ↔ R i j := by
  simp [Rounds]

end Rounds

/-- From the entry of a part its end is reached just so: the program is accepted from the entry if and only if it is from
the end, at some position that the relation leads to, and not in more steps. -/
structure Implements (code : Code) (text : Array Char) (entry next : Nat) (R : Nat → Nat → Prop) : Prop where
  sound : ∀ {n pos : Nat}, Accepts code text n (entry, pos) →
    ∃ pos' k, k ≤ n ∧ R pos pos' ∧ Accepts code text k (next, pos')
  complete : ∀ {k pos pos' : Nat}, R pos pos' → Accepts code text k (next, pos') → ∃ n, Accepts code text n (entry, pos)

section Implements

variable {code : Code} {text : Array Char} {entry middle next again i n pos : Nat} {R S : Nat → Nat → Prop} {instr : Instr}

theorem accepts_instr_iff (h : code[i]? = some instr) (hnot : instr ≠ .done) : Accepts code text n (i, pos) ↔
    ∃ m t, n = m + 1 ∧ t ∈ instr.successors text pos ∧ Accepts code text m t := by
  have hsuccessors : successors code text (i, pos) = instr.successors text pos := successors_eq h
  rw [← hsuccessors]
  constructor
  · intro haccepts
    cases haccepts with
    | done hdone => exact absurd (Option.some.inj (h.symm.trans hdone)) hnot
    | step ht haccepts => exact ⟨_, _, rfl, ht, haccepts⟩
  · rintro ⟨m, t, rfl, ht, haccepts⟩
    exact .step ht haccepts

theorem implements_self (code : Code) (text : Array Char) (i : Nat) : Implements code text i i fun p q => q = p where
  sound h := ⟨_, _, Nat.le_refl _, rfl, h⟩
  complete := by
    rintro k pos _ rfl h
    exact ⟨k, h⟩

theorem implements_instr (h : code[i]? = some instr) (hnot : instr ≠ .done)
    (hsuccessors : ∀ pos t, t ∈ instr.successors text pos ↔ t.1 = next ∧ R pos t.2) : Implements code text i next R where
  sound := by
    intro n pos haccepts
    obtain ⟨m, ⟨j, q⟩, rfl, ht, haccepts⟩ := (accepts_instr_iff h hnot).mp haccepts
    obtain ⟨rfl, hR⟩ := (hsuccessors pos (j, q)).mp ht
    exact ⟨q, m, Nat.le_succ m, hR, haccepts⟩
  complete := by
    intro k pos pos' hR haccepts
    exact ⟨k + 1, (accepts_instr_iff h hnot).mpr ⟨k, _, rfl, (hsuccessors pos _).mpr ⟨rfl, hR⟩, haccepts⟩⟩

theorem Implements.trans (h : Implements code text entry middle R) (h' : Implements code text middle next S) :
    Implements code text entry next fun p q => ∃ k, R p k ∧ S k q where
  sound := by
    intro n pos haccepts
    obtain ⟨p, m, hm, hR, haccepts⟩ := h.sound haccepts
    obtain ⟨q, k, hk, hS, haccepts⟩ := h'.sound haccepts
    exact ⟨q, k, by omega, ⟨p, hR, hS⟩, haccepts⟩
  complete := by
    rintro k pos pos' ⟨p, hR, hS⟩ haccepts
    obtain ⟨m, haccepts⟩ := h'.complete hS haccepts
    exact h.complete hR haccepts

theorem Implements.congr (h : Implements code text entry next R) (hiff : ∀ p q, R p q ↔ S p q) :
    Implements code text entry next S := by
  obtain rfl : R = S := funext fun p => funext fun q => propext (hiff p q)
  exact h

theorem choice_ne_done (greedy : Bool) (a b : Nat) : Code.choice greedy a b ≠ .done := by
  cases greedy <;> exact Instr.noConfusion

theorem mem_successors_choice {greedy : Bool} {a b : Nat} {t : State} :
    t ∈ (Code.choice greedy a b).successors text pos ↔ t = (a, pos) ∨ t = (b, pos) := by
  cases greedy <;> simp [Code.choice, Instr.successors, or_comm]

/-- Two ways, whichever is tried first. -/
theorem implements_choice {greedy : Bool} {a b : Nat} (hcode : code[i]? = some (Code.choice greedy a b))
    (h : Implements code text a next R) (h' : Implements code text b next S) :
    Implements code text i next fun p q => R p q ∨ S p q := by
  have hchoice {n pos : Nat} : Accepts code text n (i, pos) ↔
      ∃ m t, n = m + 1 ∧ (t = (a, pos) ∨ t = (b, pos)) ∧ Accepts code text m t := by
    simp only [accepts_instr_iff hcode (choice_ne_done greedy a b), mem_successors_choice]
  constructor
  · intro n pos haccepts
    obtain ⟨m, t, rfl, rfl | rfl, haccepts⟩ := hchoice.mp haccepts
    · obtain ⟨q, k, hk, hR, haccepts⟩ := h.sound haccepts
      exact ⟨q, k, by omega, .inl hR, haccepts⟩
    · obtain ⟨q, k, hk, hS, haccepts⟩ := h'.sound haccepts
      exact ⟨q, k, by omega, .inr hS, haccepts⟩
  · rintro k pos pos' (hR | hS) haccepts
    · obtain ⟨m, haccepts⟩ := h.complete hR haccepts
      exact ⟨m + 1, hchoice.mpr ⟨m, _, rfl, .inl rfl, haccepts⟩⟩
    · obtain ⟨m, haccepts⟩ := h'.complete hS haccepts
      exact ⟨m + 1, hchoice.mpr ⟨m, _, rfl, .inr rfl, haccepts⟩⟩

/-- A choice that comes back to itself makes any number of rounds. -/
theorem implements_loop {greedy : Bool} (hcode : code[again]? = some (Code.choice greedy entry next))
    (h : Implements code text entry again R) : Implements code text again next fun p q => ∃ n, Rounds R n p q := by
  have hchoice {n pos : Nat} : Accepts code text n (again, pos) ↔
      ∃ m t, n = m + 1 ∧ (t = (entry, pos) ∨ t = (next, pos)) ∧ Accepts code text m t := by
    simp only [accepts_instr_iff hcode (choice_ne_done greedy entry next), mem_successors_choice]
  constructor
  · intro n
    -- every round takes a step at least, so there are fewer left behind it
    induction n using Nat.strongRecOn with
    | ind n ih =>
      intro pos haccepts
      obtain ⟨m, t, rfl, rfl | rfl, haccepts⟩ := hchoice.mp haccepts
      · obtain ⟨p, k, hk, hR, haccepts⟩ := h.sound haccepts
        obtain ⟨q, l, hl, ⟨rounds, hrounds⟩, haccepts⟩ := ih k (by omega) haccepts
        exact ⟨q, l, by omega, ⟨rounds + 1, p, hR, hrounds⟩, haccepts⟩
      · exact ⟨pos, m, by omega, ⟨0, rfl⟩, haccepts⟩
  · rintro k pos pos' ⟨n, hrounds⟩ haccepts
    induction n generalizing pos with
    | zero =>
      obtain rfl : pos' = pos := hrounds
      exact ⟨k + 1, hchoice.mpr ⟨k, _, rfl, .inr rfl, haccepts⟩⟩
    | succ n ih =>
      obtain ⟨p, hR, hrounds⟩ := hrounds
      obtain ⟨l, hagain⟩ := ih hrounds
      obtain ⟨m, hentry⟩ := h.complete hR hagain
      exact ⟨m + 1, hchoice.mpr ⟨m, _, rfl, .inl rfl, hentry⟩⟩

end Implements

/-- The instructions that are there stay where they are. -/
structure Extends (code code' : Code) : Prop where
  size_le : code.size ≤ code'.size
  same : ∀ i, i < code.size → code'[i]? = code[i]?

/-- The instructions from some address on are those of the final code. -/
def Agrees (lo : Nat) (code final : Code) : Prop := ∀ i, lo ≤ i → i < code.size → final[i]? = code[i]?

/-- What lays out code that implements a relation, wherever it is laid out. -/
structure Emits (text : Array Char) (emit : Nat → Code → Nat × Code) (R : Nat → Nat → Prop) : Prop where
  keeps : ∀ next code, Extends code (emit next code).2
  implements : ∀ next code final, Agrees code.size (emit next code).2 final →
    Implements final text (emit next code).1 next R

section Layout

variable {code code' code'' final : Code} {text : Array Char} {lo : Nat} {instr : Instr}

theorem Extends.refl (code : Code) : Extends code code := ⟨Nat.le_refl _, fun _ _ => rfl⟩

theorem Extends.trans (h : Extends code code') (h' : Extends code' code'') : Extends code code'' where
  size_le := Nat.le_trans h.size_le h'.size_le
  same i hi := by rw [h'.same i (Nat.lt_of_lt_of_le hi h.size_le), h.same i hi]

theorem extends_push (code : Code) (instr : Instr) : Extends code (code.push instr) where
  size_le := by simp
  same i hi := by rw [Array.getElem?_push_lt hi, Array.getElem?_eq_getElem hi]

/-- A place behind the code that was there can be written over. -/
theorem Extends.set {place : Nat} (h : Extends code code') (hplace : code.size ≤ place) (instr : Instr) :
    Extends code (code'.setIfInBounds place instr) where
  size_le := by rw [Array.size_setIfInBounds]; exact h.size_le
  same i hi := by rw [Array.getElem?_setIfInBounds_ne (by omega), h.same i hi]

theorem Agrees.mono {hi : Nat} (h : Agrees lo code final) (hle : lo ≤ hi) : Agrees hi code final :=
  fun i hi => h i (Nat.le_trans hle hi)

theorem Agrees.of_extends (h : Agrees lo code' final) (hext : Extends code code') : Agrees lo code final := by
  intro i hlo hi
  rw [h i hlo (Nat.lt_of_lt_of_le hi hext.size_le), hext.same i hi]

theorem Agrees.push (h : Agrees lo (code.push instr) final) (hlo : lo ≤ code.size) : final[code.size]? = some instr := by
  rw [h code.size hlo (by simp), Array.getElem?_push_size]

end Layout

section Emits

variable {text : Array Char} {emit first second : Nat → Code → Nat × Code} {R S : Nat → Nat → Prop}

theorem emits_nothing (text : Array Char) : Emits text (fun next code => (next, code)) fun p q => q = p where
  keeps _ code := .refl code
  implements next _ final _ := implements_self final text next

theorem emits_instr {instr : Nat → Instr} (hnot : ∀ next, instr next ≠ .done)
    (hsuccessors : ∀ next pos t, t ∈ (instr next).successors text pos ↔ t.1 = next ∧ R pos t.2) :
    Emits text (fun next code => Code.add code (instr next)) R where
  keeps _ code := extends_push code _
  implements next _ _ hagrees := implements_instr (hagrees.push (Nat.le_refl _)) (hnot next) (hsuccessors next)

/-- What comes second is laid out first. -/
theorem Emits.cat (h : Emits text first R) (h' : Emits text second S) :
    Emits text (fun next code => first (second next code).1 (second next code).2) fun p q => ∃ k, R p k ∧ S k q where
  keeps next code := (h'.keeps next code).trans (h.keeps _ _)
  implements next code final hagrees := by
    have hsecond := h'.implements next code final (hagrees.of_extends (h.keeps _ _))
    have hfirst := h.implements _ _ final (hagrees.mono (h'.keeps next code).size_le)
    exact hfirst.trans hsecond

theorem Emits.congr (h : Emits text emit R) (hiff : ∀ p q, R p q ↔ S p q) : Emits text emit S where
  keeps := h.keeps
  implements next code final hagrees := (h.implements next code final hagrees).congr hiff

theorem Emits.alt (h : Emits text first R) (h' : Emits text second S) :
    Emits text (fun next code =>
      Code.add (second next (first next code).2).2 (.split (first next code).1 (second next (first next code).2).1))
      fun p q => R p q ∨ S p q where
  keeps next code := ((h.keeps next code).trans (h'.keeps _ _)).trans (extends_push _ _)
  implements next code final hagrees := by
    have hboth := hagrees.of_extends (extends_push _ _)
    have hfirst := h.implements next code final (hboth.of_extends (h'.keeps _ _))
    have hsecond := h'.implements next _ final (hboth.mono (h.keeps next code).size_le)
    have hsize := ((h.keeps next code).trans (h'.keeps next _)).size_le
    have hsplit : final[(second next (first next code).2).2.size]? =
        some (Code.choice true (first next code).1 (second next (first next code).2).1) := hagrees.push hsize
    exact implements_choice hsplit hfirst hsecond

/-- The choice that a loop comes back to is written when its operand has been laid out. -/
theorem loop_layout (h : Emits text emit R) (greedy : Bool) (next : Nat) (code final : Code) :
    let laid := emit code.size (code.push (.jump next))
    let patched := laid.2.setIfInBounds code.size (Code.choice greedy laid.1 next)
    Extends code patched ∧ code.size < patched.size ∧ (Agrees code.size patched final →
      final[code.size]? = some (Code.choice greedy laid.1 next) ∧ Implements final text laid.1 code.size R) := by
  intro laid patched
  have hlaid := h.keeps code.size (code.push (.jump next))
  have hsize : code.size < laid.2.size := by
    have hle := hlaid.size_le
    rw [Array.size_push] at hle
    exact hle
  refine ⟨((extends_push code _).trans hlaid).set (Nat.le_refl _) _, by simpa [patched] using hsize, fun hagrees => ⟨?_, ?_⟩⟩
  · rw [hagrees code.size (Nat.le_refl _) (by simpa [patched] using hsize)]
    simp [patched, hsize]
  · apply h.implements
    intro i hlo hi
    rw [Array.size_push] at hlo
    rw [hagrees i (by omega) (by simpa [patched] using hi)]
    exact Array.getElem?_setIfInBounds_ne (by omega)

theorem Emits.plus (h : Emits text emit R) (greedy : Bool) :
    Emits text (Code.plus emit greedy) fun p q => ∃ k, R p k ∧ ∃ n, Rounds R n k q where
  keeps next code := (loop_layout h greedy next code #[]).1
  implements next code final hagrees := by
    obtain ⟨-, -, hlayout⟩ := loop_layout h greedy next code final
    obtain ⟨hchoice, hentry⟩ := hlayout hagrees
    exact hentry.trans (implements_loop hchoice hentry)

theorem rounds_any_iff {p q : Nat} :
    (∃ n, Rounds R n p q) ↔ (∃ k, R p k ∧ ∃ n, Rounds R n k q) ∨ q = p := by
  constructor
  · rintro ⟨_ | n, hrounds⟩
    · exact .inr hrounds
    · obtain ⟨k, hR, hrounds⟩ := hrounds
      exact .inl ⟨k, hR, n, hrounds⟩
  · rintro (⟨k, hR, n, hrounds⟩ | rfl)
    · exact ⟨n + 1, k, hR, hrounds⟩
    · exact ⟨0, rfl⟩

theorem Emits.loop (h : Emits text emit R) (nullable greedy : Bool) :
    Emits text (Code.loop emit nullable greedy) fun p q => ∃ n, Rounds R n p q := by
  cases nullable with
  | false =>
    refine ⟨fun next code => (loop_layout h greedy next code #[]).1, fun next code final hagrees => ?_⟩
    obtain ⟨-, -, hlayout⟩ := loop_layout h greedy next code final
    obtain ⟨hchoice, hentry⟩ := hlayout hagrees
    exact implements_loop hchoice hentry
  | true =>
    refine ⟨fun next code => (loop_layout h greedy next code #[]).1.trans (extends_push _ _), fun next code final hagrees => ?_⟩
    obtain ⟨hext, -, hlayout⟩ := loop_layout h greedy next code final
    obtain ⟨hchoice, hentry⟩ := hlayout (Agrees.of_extends hagrees (extends_push _ _))
    have hloop := implements_loop hchoice hentry
    have hfirst := implements_choice (Agrees.push hagrees hext.size_le) (hentry.trans hloop) (implements_self final text next)
    exact hfirst.congr fun p q => rounds_any_iff.symm

theorem Emits.times (h : Emits text emit R) (n : Nat) : Emits text (Code.times emit n) (Rounds R n) := by
  induction n with
  | zero => exact emits_nothing text
  | succ n ih =>
    refine (ih.cat h).congr fun p q => ?_
    rw [rounds_add]
    simp only [rounds_one]

/-- No more rounds than a given number. -/
def UpTo (R : Nat → Nat → Prop) (m p q : Nat) : Prop := ∃ n, n ≤ m ∧ Rounds R n p q

theorem upTo_succ_iff {m p q : Nat} : UpTo R (m + 1) p q ↔ (∃ k, R p k ∧ UpTo R m k q) ∨ q = p := by
  constructor
  · rintro ⟨_ | n, hn, hrounds⟩
    · exact .inr hrounds
    · obtain ⟨k, hR, hrounds⟩ := hrounds
      exact .inl ⟨k, hR, n, by omega, hrounds⟩
  · rintro (⟨k, hR, n, hn, hrounds⟩ | rfl)
    · exact ⟨n + 1, by omega, k, hR, hrounds⟩
    · exact ⟨0, by omega, rfl⟩

theorem extends_atMost (h : Emits text emit R) (greedy : Bool) (leave n next : Nat) (code : Code) :
    Extends code (Code.atMost emit greedy leave n next code).2 := by
  induction n generalizing next code with
  | zero => exact .refl code
  | succ n ih => exact ((h.keeps next code).trans (extends_push _ _)).trans (ih _ _)

/-- Rounds in front of others that can be left at any time can be left at any time. -/
theorem implements_atMost (h : Emits text emit R) {greedy : Bool} {leave n m next : Nat} {code final : Code}
    (hagrees : Agrees code.size (Code.atMost emit greedy leave n next code).2 final)
    (hnext : Implements final text next leave (UpTo R m)) :
    Implements final text (Code.atMost emit greedy leave n next code).1 leave (UpTo R (m + n)) := by
  induction n generalizing m next code with
  | zero => exact hnext
  | succ n ih =>
    have hkeeps := h.keeps next code
    have hpush := extends_push (emit next code).2 (Code.choice greedy (emit next code).1 leave)
    have hrest := extends_atMost h greedy leave n (emit next code).2.size
      ((emit next code).2.push (Code.choice greedy (emit next code).1 leave))
    have hentry := h.implements next code final ((Agrees.of_extends hagrees hrest).of_extends hpush)
    have hchoice := (Agrees.of_extends hagrees hrest).push hkeeps.size_le
    have hround := implements_choice hchoice (hentry.trans hnext) (implements_self final text leave)
    have hsucc := hround.congr fun p q => upTo_succ_iff.symm
    have hall := ih (hagrees.mono (hkeeps.trans hpush).size_le) hsucc
    rwa [Nat.add_assoc, Nat.add_comm 1 n] at hall

theorem Emits.atMost (h : Emits text emit R) (greedy : Bool) (n : Nat) :
    Emits text (fun next code => Code.atMost emit greedy next n next code) (UpTo R n) where
  keeps next code := extends_atMost h greedy next n next code
  implements next code final hagrees := by
    have hnone : Implements final text next next (UpTo R 0) := by
      refine (implements_self final text next).congr fun p q => ⟨fun hq => ⟨0, Nat.le_refl 0, hq⟩, ?_⟩
      rintro ⟨n, hn, hrounds⟩
      obtain rfl : n = 0 := Nat.le_zero.mp hn
      exact hrounds
    have hall := implements_atMost h hagrees hnone
    rwa [Nat.zero_add] at hall

theorem Emits.atLeast (h : Emits text emit R) {least : Nat} (hleast : least ≠ 0) (greedy : Bool) :
    Emits text (fun next code => Code.times emit (least - 1) (Code.plus emit greedy next code).1
      (Code.plus emit greedy next code).2) fun p q => ∃ n, least ≤ n ∧ Rounds R n p q := by
  refine ((h.times (least - 1)).cat (h.plus greedy)).congr fun p q => ?_
  constructor
  · rintro ⟨k, hfirst, l, hR, n, hrounds⟩
    refine ⟨least - 1 + (n + 1), by omega, rounds_add.mpr ⟨k, hfirst, l, hR, hrounds⟩⟩
  · rintro ⟨n, hn, hrounds⟩
    obtain ⟨m, rfl⟩ : ∃ m, n = least - 1 + (m + 1) := ⟨n - least, by omega⟩
    obtain ⟨k, hfirst, l, hR, hrounds⟩ := rounds_add.mp hrounds
    exact ⟨k, hfirst, l, hR, m, hrounds⟩

theorem Emits.between (h : Emits text emit R) (greedy : Bool) (least most : Nat) :
    Emits text (fun next code => Code.times emit least (Code.atMost emit greedy next (most - least) next code).1
      (Code.atMost emit greedy next (most - least) next code).2)
      fun p q => ∃ n, least ≤ n ∧ n ≤ max least most ∧ Rounds R n p q := by
  refine ((h.times least).cat (h.atMost greedy (most - least))).congr fun p q => ?_
  constructor
  · rintro ⟨k, hfirst, n, hn, hrounds⟩
    exact ⟨least + n, by omega, by omega, rounds_add.mpr ⟨k, hfirst, hrounds⟩⟩
  · rintro ⟨n, hle, hn, hrounds⟩
    obtain ⟨m, rfl⟩ := Nat.exists_eq_add_of_le hle
    obtain ⟨k, hfirst, hrounds⟩ := rounds_add.mp hrounds
    exact ⟨k, hfirst, m, by omega, hrounds⟩

theorem emits_save (text : Array Char) (slot : Nat) :
    Emits text (fun next code => Code.add code (.save slot next)) fun p q => q = p := by
  apply emits_instr
  · exact fun next => Instr.noConfusion
  · intro next pos t
    simp [Instr.successors, Prod.ext_iff]

/-- The code of a pattern implements what the pattern matches. -/
theorem emits_emit (text : Array Char) (p : Pattern) : Emits text p.emit (p.Matches text) := by
  induction p with
  | empty => exact emits_nothing text
  | set p size =>
    apply emits_instr
    · exact fun next => Instr.noConfusion
    · intro next pos t
      simp only [Instr.successors, List.mem_ite_nil_right, List.mem_singleton, Prod.ext_iff, Pattern.Matches]
      exact and_rotate
  | look l =>
    apply emits_instr
    · exact fun next => Instr.noConfusion
    · intro next pos t
      simp only [Instr.successors, List.mem_ite_nil_right, List.mem_singleton, Prod.ext_iff, Pattern.Matches]
      exact and_rotate
  | cat a b iha ihb => exact iha.cat ihb
  | alt a b iha ihb => exact iha.alt ihb
  | rep least most greedy p ih =>
    cases most with
    | none =>
      by_cases hleast : least = 0
      · subst hleast
        refine (ih.loop p.nullable greedy).congr fun i j => ?_
        simp [Pattern.Matches]
      · have hcode : (Pattern.rep least none greedy p).emit = fun next code =>
            Code.times p.emit (least - 1) (Code.plus p.emit greedy next code).1 (Code.plus p.emit greedy next code).2 := by
          funext next code
          rw [Pattern.emit, if_neg (by simpa using hleast)]
        rw [hcode]
        refine (ih.atLeast hleast greedy).congr fun i j => ?_
        simp [Pattern.Matches]
    | some most =>
      refine (ih.between greedy least most).congr fun i j => ?_
      simp [Pattern.Matches]
  | group i p ih =>
    have hgroup := (emits_save text (2 * i)).cat (ih.cat (emits_save text (2 * i + 1)))
    refine hgroup.congr fun i j => ?_
    simp [Pattern.Matches]

end Emits

theorem accepts_program_iff (p : Pattern) (groups : Nat) (text : Array Char) (i : Nat) :
    (∃ n, Accepts (Program.of p groups).code text n ((Program.of p groups).start, i)) ↔ ∃ j, p.Matches text i j := by
  have hemits := emits_emit text (.group 0 p)
  have hcode : Implements (Program.of p groups).code text (Program.of p groups).start 0 (p.Matches text) :=
    hemits.implements 0 #[.done] _ fun _ _ _ => rfl
  have hdone : (Program.of p groups).code[0]? = some .done := (hemits.keeps 0 #[.done]).same 0 (Nat.zero_lt_one)
  constructor
  · rintro ⟨n, haccepts⟩
    obtain ⟨j, -, -, hmatches, -⟩ := hcode.sound haccepts
    exact ⟨j, hmatches⟩
  · rintro ⟨j, hmatches⟩
    exact hcode.complete hmatches (.done (n := 0) hdone)

/-- A search for a pattern finds a match if and only if the pattern matches somewhere in the text. -/
theorem isMatch_iff (p : Pattern) (groups : Nat) (s : String) :
    isMatch ⟨Program.of p groups⟩ s ↔ ∃ i j, i ≤ s.length ∧ p.Matches s.toList.toArray i j := by
  rw [isMatch, find?, findFrom?_isSome_iff (Nat.zero_le _)]
  simp only [accepts_program_iff, Nat.zero_le, true_and, List.size_toArray, String.length_toList]
  exact exists_congr fun i => exists_and_left.symm

/-- The pattern matches these characters behind the given ones, whatever follows. -/
def Takes (p : Pattern) (before taken : List Char) : Prop :=
  ∀ after, p.Matches (before ++ taken ++ after).toArray before.length (before ++ taken).length

section Takes

variable {p a b : Pattern} {before taken more : List Char} {test : Char → Bool} {size i : Nat} {greedy : Bool}

theorem takes_empty (before : List Char) : Takes .empty before [] := by
  intro after
  simp [Pattern.Matches]

theorem takes_textStart : Takes (.look .textStart) [] [] := by
  intro after
  exact ⟨rfl, rfl⟩

theorem Takes.cat (h : Takes a before taken) (h' : Takes b (before ++ taken) more) :
    Takes (.cat a b) before (taken ++ more) := by
  intro after
  refine ⟨(before ++ taken).length, ?_, ?_⟩
  · have hfirst := h (more ++ after)
    rwa [← List.append_assoc, List.append_assoc before] at hfirst
  · have hsecond := h' after
    rwa [List.append_assoc before] at hsecond

theorem takes_set {c : Char} (hc : test c) (before : List Char) : Takes (.set test size) before [c] := by
  intro after
  refine ⟨by simp, ?_⟩
  simp [hc]

theorem Takes.group (h : Takes p before taken) : Takes (.group i p) before taken := h

theorem Takes.once (h : Takes p before taken) : Takes (.rep 0 (some 1) greedy p) before taken := by
  intro after
  exact ⟨1, by omega, by simp, rounds_one.mpr (h after)⟩

theorem takes_never (before : List Char) : Takes (.rep 0 (some 1) greedy p) before [] := by
  intro after
  exact ⟨0, by omega, by simp, by simp [Rounds]⟩

theorem rounds_set (h : ∀ c ∈ taken, test c) (before after : List Char) :
    Rounds (Pattern.Matches (before ++ taken ++ after).toArray (.set test size)) taken.length before.length
      (before ++ taken).length := by
  induction taken generalizing before with
  | nil => simp [Rounds]
  | cons c taken ih =>
    obtain ⟨hc, htaken⟩ := List.forall_mem_cons.mp h
    have hrest := ih htaken (before ++ [c])
    have hfirst : Takes (.set test size) before [c] := takes_set hc before
    refine ⟨(before ++ [c]).length, ?_, ?_⟩
    · simpa using hfirst (taken ++ after)
    · simpa using hrest

theorem takes_many (h : ∀ c ∈ taken, test c) (before : List Char) :
    Takes (.rep 0 none greedy (.set test size)) before taken := by
  intro after
  exact ⟨taken.length, by omega, by simp, rounds_set h before after⟩

theorem takes_some (h : ∀ c ∈ taken, test c) (hne : taken ≠ []) (before : List Char) :
    Takes (.rep 1 none greedy (.set test size)) before taken := by
  intro after
  exact ⟨taken.length, List.length_pos_iff.mpr hne, by simp, rounds_set h before after⟩

/-- What a pattern takes at the beginning of a text makes a match. -/
theorem Takes.isMatch {groups : Nat} {s : String} {after : List Char} (h : Takes p [] taken)
    (hs : s.toList = taken ++ after) : isMatch ⟨Program.of p groups⟩ s := by
  rw [isMatch_iff]
  have hmatches := h after
  rw [List.nil_append, ← hs] at hmatches
  exact ⟨0, _, Nat.zero_le _, hmatches⟩

end Takes

/-- What a text of a pattern is read as. The fuel is left open: a number for it would be counted down at every step. -/
theorem read?_of_alternatives {text : String} {cs : List Char} {p : Pattern} {groups : Nat} (fuel : Nat)
    (hcs : text.toList = cs)
    (h : ∀ n, Reader.alternatives (n + fuel) { rest := cs } = some (p, { rest := [], groups := groups }))
    (hfuel : fuel ≤ 4 * cs.length + 16) : read? text = some (p, groups) := by
  obtain ⟨n, hn⟩ := Nat.exists_eq_add_of_le' hfuel
  have hrun : (Reader.alternatives (4 * cs.length + 16)).run { rest := cs } =
      some (p, { rest := [], groups := groups }) := by
    rw [hn]
    exact h n
  rw [read?, hcs]
  simp only [hrun, List.isEmpty_nil, if_true]

/-- The number of characters that every match of a pattern takes at least. -/
def Pattern.minLength : Pattern → Nat
  | empty | look _ => 0
  | set _ _ => 1
  | cat a b => a.minLength + b.minLength
  | alt a b => min a.minLength b.minLength
  | rep least _ _ p => least * p.minLength
  | group _ p => p.minLength

/-- Whether there is a character for each set that every match of a pattern takes one from. -/
def Pattern.supplied (cs : List Char) : Pattern → Bool
  | empty | look _ => true
  | set p _ => cs.any p
  | cat a b => a.supplied cs && b.supplied cs
  | alt a b => a.supplied cs || b.supplied cs
  | rep least _ _ p => least == 0 || p.supplied cs
  | group _ p => p.supplied cs

section Necessary

variable {R : Nat → Nat → Prop} {text : Array Char} {p : Pattern} {i j k n size : Nat}

theorem rounds_bounds (hR : ∀ i j, i ≤ size → R i j → i + k ≤ j ∧ j ≤ size) (hi : i ≤ size) (h : Rounds R n i j) :
    i + n * k ≤ j ∧ j ≤ size := by
  induction n generalizing i with
  | zero =>
    obtain rfl : j = i := h
    simpa using hi
  | succ n ih =>
    obtain ⟨next, hround, hrest⟩ := h
    obtain ⟨hfirst, hnext⟩ := hR i next hi hround
    obtain ⟨hlower, hupper⟩ := ih hnext hrest
    refine ⟨?_, hupper⟩
    rw [Nat.succ_mul]
    omega

/-- A match has its least length and stays in the text. -/
theorem Pattern.Matches.bounds (hi : i ≤ text.size) (h : p.Matches text i j) : i + p.minLength ≤ j ∧ j ≤ text.size := by
  induction p generalizing i j with
  | empty =>
    obtain rfl : j = i := h
    exact ⟨Nat.le_refl _, hi⟩
  | set p size =>
    obtain ⟨rfl, hc⟩ := h
    refine ⟨Nat.le_refl _, ?_⟩
    rcases Nat.lt_or_ge i text.size with hlt | hge
    · exact hlt
    · simp [Array.getElem?_eq_none hge] at hc
  | look l =>
    obtain ⟨rfl, -⟩ := h
    exact ⟨Nat.le_refl _, hi⟩
  | cat a b iha ihb =>
    obtain ⟨middle, ha, hb⟩ := h
    obtain ⟨hlower, hmiddle⟩ := iha hi ha
    obtain ⟨hlower', hupper⟩ := ihb hmiddle hb
    refine ⟨?_, hupper⟩
    rw [Pattern.minLength]
    omega
  | alt a b iha ihb =>
    rw [Pattern.minLength]
    rcases h with h | h
    · have := iha hi h
      omega
    · have := ihb hi h
      omega
  | rep least most greedy p ih =>
    obtain ⟨n, hleast, -, hrounds⟩ := h
    obtain ⟨hlower, hupper⟩ := rounds_bounds (fun _ _ => ih) hi hrounds
    have hmul := Nat.mul_le_mul_right p.minLength hleast
    refine ⟨?_, hupper⟩
    rw [Pattern.minLength]
    omega
  | group index p ih => exact ih hi h

theorem Pattern.Matches.supplied (h : p.Matches text i j) : p.supplied text.toList = true := by
  induction p generalizing i j with
  | empty | look => rfl
  | set p size =>
    obtain ⟨c, hget, hc⟩ := (Option.any_eq_true p text[i]?).mp h.2
    exact List.any_eq_true.mpr ⟨c, Array.mem_toList_iff.mpr (Array.mem_of_getElem? hget), hc⟩
  | cat a b iha ihb =>
    obtain ⟨middle, ha, hb⟩ := h
    rw [Pattern.supplied, iha ha, ihb hb]
    rfl
  | alt a b iha ihb =>
    rw [Pattern.supplied, Bool.or_eq_true]
    exact h.imp iha ihb
  | rep least most greedy p ih =>
    obtain ⟨n, hleast, -, hrounds⟩ := h
    rw [Pattern.supplied, Bool.or_eq_true, beq_iff_eq]
    cases n with
    | zero => exact .inl (Nat.le_zero.mp hleast)
    | succ n =>
      obtain ⟨next, hround, -⟩ := hrounds
      exact .inr (ih hround)
  | group index p ih => exact ih h

theorem not_isMatch_nothing (s : String) : ¬ isMatch ⟨⟨#[], 0, 0⟩⟩ s := by
  rw [isMatch, find?, findFrom?_isSome_iff (Nat.zero_le _)]
  rintro ⟨i, -, -, n, haccepts⟩
  cases haccepts with
  | done h => simp at h
  | step ht _ => simp [successors] at ht

/-- A pattern that matches some text is valid, and matches somewhere in the text. -/
theorem exists_of_isMatch_ofValid {pattern s : String} (h : (ofValid pattern).isMatch s) :
    ∃ p groups, read? pattern = some (p, groups) ∧ ∃ i j, i ≤ s.length ∧ p.Matches s.toList.toArray i j := by
  have hnothing : ofValid pattern ≠ ⟨⟨#[], 0, 0⟩⟩ := fun heq => not_isMatch_nothing s (heq ▸ h)
  unfold ofValid compile? at hnothing h
  cases hread : read? pattern with
  | none => simp [hread] at hnothing
  | some x =>
    by_cases hcost : maxCost < x.1.cost
    · simp [hread, hcost] at hnothing
    · refine ⟨x.1, x.2, rfl, (isMatch_iff x.1 x.2 s).mp ?_⟩
      simpa [hread, hcost] using h

/-- A text without some character that a pattern asks for does not match it. -/
theorem not_isMatch_of_not_supplied {pattern s : String} (h : (read? pattern).all fun x => !x.1.supplied s.toList) :
    ¬ (ofValid pattern).isMatch s := by
  intro hmatch
  obtain ⟨p, groups, hread, i, j, -, hmatches⟩ := exists_of_isMatch_ofValid hmatch
  have hlacks : p.supplied s.toList = false := by simpa [hread] using h
  rw [hmatches.supplied] at hlacks
  cases hlacks

end Necessary

end CodeAudit.Regex
