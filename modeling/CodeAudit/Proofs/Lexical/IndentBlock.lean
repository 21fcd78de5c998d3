import CodeAudit.Count
import CodeAudit.Lexical.Block
import Mathlib.Data.List.Basic

/-! Where an indented block ends, by its lines. The header goes on while brackets are open, as far as 32 bits can
count them; behind it the body is a run of lines that are blank or deeper than the header, and the block ends with the
last of them that is not blank. -/
namespace CodeAudit.Lexical

def isOpeningBracket (c : Char) : Bool := c = '(' ∨ c = '[' ∨ c = '\x7b'

def isClosingBracket (c : Char) : Bool := c = ')' ∨ c = ']' ∨ c = '\x7d'

/-- All brackets from a line on. -/
def bracketsFrom (lines : List String) (start : Nat) : Nat :=
  let text := (lines.drop start).flatMap String.toList
  text.countP isOpeningBracket + text.countP isClosingBracket

/-- The brackets that lines `start` to `stop - 1` leave open; those that they close too often count against them. -/
def openBrackets (lines : List String) (start stop : Nat) : Int :=
  let text := ((lines.drop start).take (stop - start)).flatMap String.toList
  text.countP isOpeningBracket - text.countP isClosingBracket

/-- The first line from `start` on behind which no bracket is open, or the twelfth line further on, or the last line
of all, whichever comes first. -/
structure IsHeaderEnd (lines : List String) (start h : Nat) : Prop where
  start_le : start ≤ h
  lt_length : h < lines.length
  stops : openBrackets lines start (h + 1) ≤ 0 ∨ h = start + 12 ∨ h + 1 = lines.length
  first : ∀ i, start ≤ i → i < h → 0 < openBrackets lines start (i + 1) ∧ i < start + 12

/-- A line of the body of a block whose header is indented by `base`. -/
def InBody (base : Nat) (line : String) : Prop := Text.isBlank line ∨ base < indentWidth line

/-- The lines between `h` and `r` are the body behind line `h`, as far as it goes. -/
structure IsBodyRun (lines : List String) (base h r : Nat) : Prop where
  lt : h < r
  le_length : r ≤ lines.length
  inside : ∀ i line, h < i → i < r → lines[i]? = some line → InBody base line
  ends : ∀ line, lines[r]? = some line → ¬ InBody base line

/-- The last line between `h` and `r` that is not blank, or `h` if all are blank. -/
structure IsLastLine (lines : List String) (h r e : Nat) : Prop where
  le : h ≤ e
  lt : e < r
  blank : ∀ i line, e < i → i < r → lines[i]? = some line → Text.isBlank line
  notBlank : e ≠ h → ∀ line, lines[e]? = some line → ¬ Text.isBlank line

/-- The first line behind `e` that is not blank is not indented deeper than `base`. -/
def DedentsAfter (lines : List String) (base e : Nat) : Prop :=
  ∀ i line, e < i → lines[i]? = some line → ¬ Text.isBlank line →
    (∀ j other, e < j → j < i → lines[j]? = some other → Text.isBlank other) → indentWidth line ≤ base

variable {lines rest : List String} {start i h r e base last : Nat} {line : String} {balance : Int32}

theorem bracketChange_eq (c : Char) :
    bracketChange c = (if isOpeningBracket c then 1 else 0) - if isClosingBracket c then 1 else 0 := by
  by_cases hopening : c = '(' ∨ c = '[' ∨ c = '\x7b'
  · have hclosing : ¬ (c = ')' ∨ c = ']' ∨ c = '\x7d') := by
      rcases hopening with rfl | rfl | rfl <;> decide
    simp [bracketChange, isOpeningBracket, isClosingBracket, hopening, hclosing]
  · by_cases hclosing : c = ')' ∨ c = ']' ∨ c = '\x7d' <;>
      simp [bracketChange, isOpeningBracket, isClosingBracket, hopening, hclosing]

theorem foldl_bracketChange (n : Int32) (cs : List Char) :
    cs.foldl (fun n c => n + bracketChange c) n =
      n + .ofInt (cs.countP isOpeningBracket - cs.countP isClosingBracket) := by
  induction cs generalizing n with
  | nil => exact (Int32.add_zero n).symm
  | cons c cs ih =>
    have hchange : bracketChange c =
        .ofInt ((if isOpeningBracket c then 1 else 0) - if isClosingBracket c then 1 else 0) := by
      rw [bracketChange_eq]
      split <;> split <;> rfl
    rw [List.foldl_cons, ih, List.countP_cons, List.countP_cons, hchange, Int32.add_assoc, ← Int32.ofInt_add]
    congr 2
    split <;> split <;> omega

theorem openBrackets_start (lines : List String) (start : Nat) : openBrackets lines start start = 0 := by
  simp [openBrackets]

/-- Each line adds its own brackets. -/
theorem openBrackets_succ (hi : start ≤ i) (hline : lines[i]? = some line) :
    Int32.ofInt (openBrackets lines start (i + 1)) = .ofInt (openBrackets lines start i) + bracketBalance line := by
  have hget : (lines.drop start)[i - start]? = some line := by
    rw [List.getElem?_drop, Nat.add_sub_cancel' hi, hline]
  have hsucc : i + 1 - start = i - start + 1 := by omega
  rw [openBrackets, openBrackets, bracketBalance, foldl_bracketChange, hsucc, List.take_add_one, hget, Int32.zero_add,
    ← Int32.ofInt_add]
  simp only [List.flatMap_append, List.countP_append, Option.toList_some, List.flatMap_singleton]
  congr 1
  omega

/-- With fewer than 2³¹ brackets the word for their balance tells whether one is open. -/
theorem ofInt_openBrackets_le_zero_iff (hfew : bracketsFrom lines start < bound31) (i : Nat) :
    Int32.ofInt (openBrackets lines start i) ≤ 0 ↔ openBrackets lines start i ≤ 0 := by
  have hsplit : (lines.drop start).flatMap String.toList =
      ((lines.drop start).take (i - start)).flatMap String.toList ++
        ((lines.drop start).drop (i - start)).flatMap String.toList := by
    rw [← List.flatMap_append, List.take_append_drop]
  rw [bracketsFrom, hsplit, bound31] at hfew
  simp only [List.countP_append] at hfew
  have hword : (Int32.ofInt (openBrackets lines start i)).toInt = openBrackets lines start i := by
    apply Int32.toInt_ofInt_of_le <;> rw [openBrackets] <;> omega
  rw [Int32.le_iff_toInt_le, hword]
  rfl

theorem getElem?_of_drop (h : lines.drop i = line :: rest) : lines[i]? = some line := by
  rw [← List.head?_drop, h, List.head?_cons]

theorem drop_succ_of_drop (h : lines.drop i = line :: rest) : lines.drop (i + 1) = rest := by
  rw [← List.tail_drop, h, List.tail_cons]

theorem lt_of_drop (h : lines.drop i = line :: rest) : i < lines.length :=
  (List.getElem?_eq_some_iff.mp (getElem?_of_drop h)).1

theorem length_le_of_drop (h : lines.drop i = []) : lines.length ≤ i := List.drop_eq_nil_iff.mp h

/-- The header is followed line by line; what was passed over leaves brackets open. -/
theorem isHeaderEnd_headerEnd (hfew : bracketsFrom lines start < bound31) (hrest : lines.drop i = line :: rest)
    (hi : start ≤ i) (hbalance : balance = .ofInt (openBrackets lines start i))
    (hfirst : ∀ j, start ≤ j → j < i → 0 < openBrackets lines start (j + 1) ∧ j < start + 12) :
    IsHeaderEnd lines start (headerEnd start i balance (line :: rest)) := by
  induction rest generalizing i line balance with
  | nil =>
    have hlt := lt_of_drop hrest
    have hlength := length_le_of_drop (drop_succ_of_drop hrest)
    have hlast : headerEnd start i balance [line] = i := by
      simp only [headerEnd]
      split <;> rfl
    rw [hlast]
    exact ⟨hi, hlt, .inr (.inr (by omega)), hfirst⟩
  | cons next rest ih =>
    have hopen : balance + bracketBalance line = .ofInt (openBrackets lines start (i + 1)) := by
      rw [hbalance, openBrackets_succ hi (getElem?_of_drop hrest)]
    have hclosed : balance + bracketBalance line ≤ 0 ↔ openBrackets lines start (i + 1) ≤ 0 := by
      rw [hopen, ofInt_openBrackets_le_zero_iff hfew]
    rw [headerEnd]
    split
    · rename_i hstop
      refine ⟨hi, lt_of_drop hrest, ?_, hfirst⟩
      rcases hstop with hstop | hlong
      · exact .inl (hclosed.mp hstop)
      · have hwithin : i ≤ start + 12 := by
          rcases Nat.eq_or_lt_of_le hi with rfl | hlt
          · exact Nat.le_add_right start 12
          · have hbefore := (hfirst (i - 1) (by omega) (by omega)).2
            omega
        exact .inr (.inl (Nat.le_antisymm hwithin hlong))
    · rename_i hstop
      obtain ⟨hopened, hshort⟩ := not_or.mp hstop
      refine ih (drop_succ_of_drop hrest) (Nat.le_succ_of_le hi) hopen fun j hj hjlt => ?_
      rcases Nat.lt_succ_iff_lt_or_eq.mp hjlt with hlt | rfl
      · exact hfirst j hj hlt
      · exact ⟨Int.not_le.mp (mt hclosed.mpr hopened), Nat.not_le.mp hshort⟩

/-- A header ends on a line from its first one on, whatever the balance counts. -/
theorem headerEnd_bounds (hrest : lines.drop i = line :: rest) (balance : Int32) :
    i ≤ headerEnd start i balance (line :: rest) ∧ headerEnd start i balance (line :: rest) < lines.length := by
  induction rest generalizing i line balance with
  | nil =>
    have hlast : headerEnd start i balance [line] = i := by
      simp only [headerEnd]
      split <;> rfl
    rw [hlast]
    exact ⟨Nat.le_refl i, lt_of_drop hrest⟩
  | cons next rest ih =>
    rw [headerEnd]
    split
    · exact ⟨Nat.le_refl i, lt_of_drop hrest⟩
    · obtain ⟨hle, hlt⟩ := ih (drop_succ_of_drop hrest) (balance + bracketBalance line)
      exact ⟨Nat.le_of_succ_le hle, hlt⟩

/-- The body is followed line by line, with the last line so far that is not blank. -/
theorem exists_bodyRun (base : Nat) (hrest : lines.drop i = rest) (hi : h < i) (hle : i ≤ lines.length)
    (hinside : ∀ j line, h < j → j < i → lines[j]? = some line → InBody base line) (hlast : IsLastLine lines h i last) :
    ∃ r, IsBodyRun lines base h r ∧ IsLastLine lines h r (bodyEnd base last i rest) := by
  induction rest generalizing i last with
  | nil =>
    refine ⟨i, ⟨hi, hle, hinside, fun line hline => ?_⟩, hlast⟩
    rw [List.getElem?_eq_none (length_le_of_drop hrest)] at hline
    cases hline
  | cons line rest ih =>
    have hline := getElem?_of_drop hrest
    have honly : ∀ other, lines[i]? = some other → other = line := fun other hother =>
      Option.some.inj (hother.symm.trans hline)
    have hgrow : InBody base line → ∀ j other, h < j → j < i + 1 → lines[j]? = some other → InBody base other := by
      intro hbody j other hj hjlt hother
      rcases Nat.lt_succ_iff_lt_or_eq.mp hjlt with hlt | rfl
      · exact hinside j other hj hlt hother
      · exact honly other hother ▸ hbody
    rw [bodyEnd]
    split
    · rename_i hblank
      apply ih (drop_succ_of_drop hrest) (Nat.lt_succ_of_lt hi) (lt_of_drop hrest) (hgrow (.inl hblank))
      refine ⟨hlast.le, Nat.lt_succ_of_lt hlast.lt, fun j other hj hjlt hother => ?_, hlast.notBlank⟩
      rcases Nat.lt_succ_iff_lt_or_eq.mp hjlt with hlt | rfl
      · exact hlast.blank j other hj hlt hother
      · exact honly other hother ▸ hblank
    · rename_i hblank
      split
      · rename_i hshallow
        refine ⟨i, ⟨hi, hle, hinside, fun other hother => ?_⟩, hlast⟩
        rw [honly other hother]
        exact not_or.mpr ⟨hblank, Nat.not_lt.mpr hshallow⟩
      · rename_i hshallow
        apply ih (drop_succ_of_drop hrest) (Nat.lt_succ_of_lt hi) (lt_of_drop hrest)
          (hgrow (.inr (Nat.not_le.mp hshallow)))
        refine ⟨Nat.le_of_lt hi, Nat.lt_succ_self i, fun j other hj hjlt _ => by omega, fun _ other hother => ?_⟩
        rw [honly other hother]
        exact hblank

theorem IsLastLine.deeper (hlast : IsLastLine lines h r e) (hrun : IsBodyRun lines base h r) (hi : h < i) (hle : i ≤ e)
    (hline : lines[i]? = some line) (hblank : ¬ Text.isBlank line) : base < indentWidth line :=
  (hrun.inside i line hi (Nat.lt_of_le_of_lt hle hlast.lt) hline).resolve_left hblank

theorem IsLastLine.dedentsAfter (hlast : IsLastLine lines h r e) (hrun : IsBodyRun lines base h r) :
    DedentsAfter lines base e := by
  intro i line hi hline hblank hbefore
  rcases Nat.lt_trichotomy i r with hlt | rfl | hgt
  · exact absurd (hlast.blank i line hi hlt hline) hblank
  · exact Nat.le_of_not_lt (not_or.mp (hrun.ends line hline)).2
  · -- the line that ends the run is not blank and comes before
    have hr : r < lines.length := Nat.lt_trans hgt (List.getElem?_eq_some_iff.mp hline).1
    have hend := List.getElem?_eq_getElem hr
    exact absurd (.inl (hbefore r _ hlast.lt hgt hend)) (hrun.ends _ hend)

/-- The block of a header line ends on the last line of its body that is not blank: the body begins behind the line on
which the brackets of the header are closed, at most twelve lines further on, and goes on while lines are blank or
deeper than the header. A header without body is a block of its own. So the end is a line from the header on, what is
not blank up to it is deeper than the header, and what comes next is not. Where the header ends is said for as many
brackets as a word of 32 bits can count. -/
theorem indentBlockEnd_extent (lines : List String) {start : Nat} {header : String}
    (hheader : lines[start]? = some header) :
    start ≤ indentBlockEnd lines start ∧ indentBlockEnd lines start < lines.length ∧
      DedentsAfter lines (indentWidth header) (indentBlockEnd lines start) ∧
      ∃ h r, (bracketsFrom lines start < bound31 → IsHeaderEnd lines start h) ∧ start ≤ h ∧
        IsBodyRun lines (indentWidth header) h r ∧ IsLastLine lines h r (indentBlockEnd lines start) ∧
        ∀ i line, h < i → i ≤ indentBlockEnd lines start → lines[i]? = some line → ¬ Text.isBlank line →
          indentWidth header < indentWidth line := by
  have hdrop : lines.drop start = header :: lines.drop (start + 1) := by
    obtain ⟨hlt, rfl⟩ := List.getElem?_eq_some_iff.mp hheader
    exact List.drop_eq_getElem_cons hlt
  have hend : bracketsFrom lines start < bound31 → IsHeaderEnd lines start (headerEnd start start 0 (lines.drop start)) := by
    intro hfew
    rw [hdrop]
    apply isHeaderEnd_headerEnd hfew hdrop (Nat.le_refl start)
    · rw [openBrackets_start]
      rfl
    · exact fun j hj hlt => absurd hj (Nat.not_le.mpr hlt)
  have hbounds : start ≤ headerEnd start start 0 (lines.drop start) ∧
      headerEnd start start 0 (lines.drop start) < lines.length := by
    rw [hdrop]
    exact headerEnd_bounds hdrop 0
  -- behind the header nothing is passed over yet
  have hlast : IsLastLine lines (headerEnd start start 0 (lines.drop start))
      (headerEnd start start 0 (lines.drop start) + 1) (headerEnd start start 0 (lines.drop start)) :=
    ⟨Nat.le_refl _, Nat.lt_succ_self _, fun j line hj hlt _ => by omega, fun hne => absurd rfl hne⟩
  obtain ⟨r, hrun, hblock⟩ := exists_bodyRun (indentWidth header) rfl (Nat.lt_succ_self _) hbounds.2
    (fun j line hj hlt _ => by omega) hlast
  have heq : indentBlockEnd lines start = bodyEnd (indentWidth header) (headerEnd start start 0 (lines.drop start))
      (headerEnd start start 0 (lines.drop start) + 1)
      (lines.drop (headerEnd start start 0 (lines.drop start) + 1)) := by
    rw [indentBlockEnd, hheader]
  rw [← heq] at hblock
  refine ⟨Nat.le_trans hbounds.1 hblock.le, Nat.lt_of_lt_of_le hblock.lt hrun.le_length,
    hblock.dedentsAfter hrun, _, r, hend, hbounds.1, hrun, hblock, ?_⟩
  exact fun i line hi hle hline hblank => hblock.deeper hrun hi hle hline hblank

/-- A header over two lines, with a blank line in its body. -/
def wrappedHeader : List String := ["def f(a,", "      b):", "    x = 1", "", "    return x", "y = 2"]

theorem wrappedHeader_block : wrappedHeader[0]? = some "def f(a," ∧ bracketsFrom wrappedHeader 0 < bound31 ∧
    indentBlockEnd wrappedHeader 0 = 4 ∧ DedentsAfter wrappedHeader (indentWidth "def f(a,") 4 ∧
      ∃ h r, IsHeaderEnd wrappedHeader 0 h ∧ IsBodyRun wrappedHeader (indentWidth "def f(a,") h r ∧
        IsLastLine wrappedHeader h r 4 ∧
        ∀ i line, h < i → i ≤ 4 → wrappedHeader[i]? = some line → ¬ Text.isBlank line →
          indentWidth "def f(a," < indentWidth line := by
  have hheader : wrappedHeader[0]? = some "def f(a," := rfl
  have hfew : bracketsFrom wrappedHeader 0 < bound31 := by decide
  have hblock : indentBlockEnd wrappedHeader 0 = 4 := by decide
  obtain ⟨-, -, hdedents, h, r, hend, -, hrun, hlast, hdeeper⟩ := indentBlockEnd_extent wrappedHeader hheader
  rw [hblock] at hdedents hlast hdeeper
  exact ⟨hheader, hfew, hblock, hdedents, h, r, hend hfew, hrun, hlast, hdeeper⟩

end CodeAudit.Lexical
