/-!
Counts: the bounds of those that are kept in 32 or 64 bits, and their sums.
-/
namespace CodeAudit

/-- The first number that does not fit 32 bits of which one is for the sign. -/
def bound31 : Nat := 0x80000000

/-- The first number that does not fit 32 bits. -/
def bound32 : Nat := 0x100000000

/-- The first number that does not fit 64 bits. -/
def bound64 : Nat := 0x10000000000000000

def total : List Nat → Nat
  | [] => 0
  | n :: rest => n + total rest

@[simp]
theorem total_nil : total [] = 0 := rfl

@[simp]
theorem total_cons (n : Nat) (rest : List Nat) : total (n :: rest) = n + total rest := rfl

@[simp]
theorem total_append (xs ys : List Nat) : total (xs ++ ys) = total xs + total ys := by
  induction xs with
  | nil => simp
  | cons n rest ih => simp [ih, Nat.add_assoc]

theorem total_map_set {α : Type} (f : α → Nat) {l : List α} {i : Nat} {x : α} (h : l[i]? = some x) (y : α) :
    total ((l.set i y).map f) + f x = total (l.map f) + f y := by
  induction l generalizing i with
  | nil => simp at h
  | cons z rest ih =>
    cases i with
    | zero =>
      cases h
      simp only [List.set_cons_zero, List.map_cons, total_cons]
      omega
    | succ i =>
      have hrest := ih h
      simp only [List.set_cons_succ, List.map_cons, total_cons]
      omega

theorem total_filter_le {α : Type} (f : α → Nat) (q : α → Bool) (l : List α) :
    total ((l.filter q).map f) ≤ total (l.map f) := by
  induction l with
  | nil => simp
  | cons x rest ih =>
    rw [List.filter_cons]
    split
    · simpa using ih
    · simp only [List.map_cons, total_cons]
      omega

/-- Numbers differ by their digits. -/
theorem eq_of_toList_repr {a b : Nat} (h : a.repr.toList = b.repr.toList) : a = b := by
  rw [Nat.toList_repr, Nat.toList_repr] at h
  have hvalue := congrArg (fun ds => Nat.ofDigitChars 10 ds 0) h
  rwa [Nat.ofDigitChars_ten_toDigits, Nat.ofDigitChars_ten_toDigits] at hvalue

/-- A number is written in digits and nothing else. -/
theorem notMem_repr {c : Char} (h : c.isDigit = false) (n : Nat) : c ∉ n.repr.toList := by
  intro hmem
  rw [Nat.toList_repr] at hmem
  rw [Nat.isDigit_of_mem_toDigits (by decide) (by decide) hmem] at h
  cases h

end CodeAudit
