import CodeAudit.Lexical.Block
import CodeAudit.Proofs.Lexical.Causality
import Mathlib.Data.Bool.AllAny

/-! Lines of Python code as the source has them, and what masking makes of each: literals keep their marks and lose their
text, comments are lost, and everything else stays. -/
namespace CodeAudit

namespace Lexical

/-- How Python marks comments and literals. -/
abbrev python : Style := Style.of .python

/-- Blanks on a line. -/
def IsGap (cs : List Char) : Prop := ∀ c ∈ cs, Text.isBlankChar c ∧ c ≠ '\n'

/-- A character of code that begins nothing else. -/
def IsPlainChar (c : Char) : Prop := c ≠ '"' ∧ c ≠ '\'' ∧ c ≠ '#' ∧ c ≠ '\n'

instance : DecidablePred IsPlainChar := fun _ => inferInstanceAs (Decidable (_ ∧ _))

/-- A text on one line within which a mark does not occur, but for characters behind a backslash. -/
inductive Within (mark : List Char) : List Char → Prop
  | nil : Within mark []
  | escape {c : Char} {cs : List Char} (hc : c ≠ '\n') (h : Within mark cs) : Within mark ('\\' :: c :: cs)
  | char {c : Char} {cs : List Char} (hescape : c ≠ '\\') (hfeed : c ≠ '\n') (hmark : ¬ mark <+: c :: cs ++ mark)
      (h : Within mark cs) : Within mark (c :: cs)

theorem within_of_plain {q : Char} {mark cs : List Char} (h : ∀ c ∈ cs, c ≠ '\\' ∧ c ≠ '\n' ∧ c ≠ q) :
    Within (q :: mark) cs := by
  induction cs with
  | nil => exact .nil
  | cons c cs ih =>
    obtain ⟨⟨hescape, hfeed, hq⟩, hcs⟩ := List.forall_mem_cons.mp h
    apply Within.char hescape hfeed _ (ih hcs)
    intro hmark
    exact hq (List.cons_prefix_cons.mp hmark).1.symm

/-- A string literal on one line. -/
structure Literal where
  letters : List Char
  quote : Char
  triple : Bool
  text : List Char
  letters_plain : ∀ c ∈ letters, c ∈ "rRbBuUfF".toList
  quote_eq : quote = '"' ∨ quote = '\''
  within : Within (if triple then [quote, quote, quote] else [quote]) text

namespace Literal

def mark (l : Literal) : List Char := if l.triple then [l.quote, l.quote, l.quote] else [l.quote]

def source (l : Literal) : List Char := l.letters ++ l.mark ++ l.text ++ l.mark

def masked (l : Literal) : List Char := l.letters ++ l.mark ++ List.replicate l.text.length ' ' ++ l.mark

/-- A literal that consists of its marks. -/
def Bare (l : Literal) : Prop := l.letters = [] ∧ l.text = []

/-- What follows does not make triple marks of the marks of an empty literal. -/
def Ends (l : Literal) (rest : List Char) : Prop := l.triple = false → l.text = [] → rest.head? ≠ some l.quote

end Literal

/-- What can follow the code on a line. -/
structure LineTail where
  gap : List Char
  comment : Option (List Char)
  isGap : IsGap gap
  oneLine : ∀ text, comment = some text → '\n' ∉ text

namespace LineTail

def source (t : LineTail) : List Char := t.gap ++ t.comment.elim [] ('#' :: ·)

def masked (t : LineTail) : List Char := t.gap ++ t.comment.elim [] fun text => List.replicate (text.length + 1) ' '

end LineTail

/-- Code that stands for nothing. -/
inductive Placeholder where
  | nothing
  | pass
  | ellipsis
  | literal (l : Literal)

namespace Placeholder

def source : Placeholder → List Char
  | nothing => []
  | pass => "pass".toList
  | ellipsis => "...".toList
  | literal l => l.source

def masked : Placeholder → List Char
  | literal l => l.masked
  | other => other.source

end Placeholder

/-- A line of a body that does nothing; one without code is blank or a comment. -/
structure FillerLine where
  indent : List Char
  code : Placeholder
  tail : LineTail
  isGap : IsGap indent

namespace FillerLine

def source (l : FillerLine) : List Char := l.indent ++ l.code.source ++ l.tail.source

def masked (l : FillerLine) : List Char := l.indent ++ l.code.masked ++ l.tail.masked

end FillerLine

/-- Code on one line with its literals, and what is left of it. -/
inductive Reads : List Char → List Char → Prop
  | nil : Reads [] []
  | char {c : Char} {cs ds : List Char} (hc : IsPlainChar c) (h : Reads cs ds) : Reads (c :: cs) (c :: ds)
  | literal {l : Literal} {cs ds : List Char} (hends : l.Ends cs) (h : Reads cs ds) :
      Reads (l.source ++ cs) (l.masked ++ ds)

/-- The header of a test on one line: behind the name comes what begins with a parenthesis and ends with a colon. -/
structure TestHeader where
  indent : List Char
  async : Option (List Char)
  gap : List Char
  name : List Char
  space : List Char
  signature : List Char
  code : List Char
  tail : LineTail
  indent_isGap : IsGap indent
  async_isGap : ∀ between, async = some between → IsGap between ∧ between ≠ []
  gap_isGap : IsGap gap ∧ gap ≠ []
  name_isWord : ∀ c ∈ name, Text.isWord c
  space_isGap : IsGap space
  reads : Reads signature code
  closed : bracketBalance (String.ofList ('(' :: code)) ≤ 0

namespace TestHeader

/-- The words of a header, up to its name. -/
def words (h : TestHeader) : List Char :=
  h.indent ++ h.async.elim [] ("async".toList ++ ·) ++ "def".toList ++ h.gap ++ ("test".toList ++ h.name) ++ h.space

/-- The beginning of a header. -/
def head (h : TestHeader) : List Char := h.words ++ ['(']

def source (h : TestHeader) : List Char := h.head ++ h.signature ++ ':' :: h.tail.source

def masked (h : TestHeader) : List Char := h.head ++ h.code ++ ':' :: h.tail.masked

end TestHeader

section Masking

variable {c d q : Char} {cs gap rest mark : List Char}

theorem mask_plain (hc : IsPlainChar c) (rest : List Char) :
    maskFrom python .code (c :: rest) = c :: maskFrom python .code rest := by
  obtain ⟨hdouble, hsingle, hhash, hfeed⟩ := hc
  have hquotes : ¬ c ∈ python.quotes := by simp [python, Style.of, hdouble, hsingle]
  rcases rest with _ | ⟨d, _ | ⟨e, rest⟩⟩ <;>
    simp [maskFrom, hquotes, hdouble, hsingle, hhash, show python.slashComments = false from rfl]

theorem mask_plains (h : ∀ c ∈ cs, IsPlainChar c) (rest : List Char) :
    maskFrom python .code (cs ++ rest) = cs ++ maskFrom python .code rest := by
  induction cs with
  | nil => rfl
  | cons c cs ih =>
    rw [List.cons_append, mask_plain (h c List.mem_cons_self), ih fun d hd => h d (List.mem_cons_of_mem c hd),
      List.cons_append]

theorem isPlainChar_of_blank (h : Text.isBlankChar c ∧ c ≠ '\n') : IsPlainChar c := by
  obtain ⟨hblank, hfeed⟩ := h
  refine ⟨?_, ?_, ?_, hfeed⟩ <;> rintro rfl <;> revert hblank <;> decide

theorem isPlainChar_of_isGap (h : IsGap gap) : ∀ c ∈ gap, IsPlainChar c := fun c hc => isPlainChar_of_blank (h c hc)

/-- Behind the opening mark a text is lost up to the closing one. -/
theorem mask_quoted (hq : q = '"' ∨ q = '\'') (h : Within [q] cs) (rest : List Char) :
    maskFrom python (.quoted q) (cs ++ q :: rest) = List.replicate cs.length ' ' ++ q :: maskFrom python .code rest := by
  have hraw : (q == backquote) = false := by rcases hq with rfl | rfl <;> decide
  have hescape : q ≠ '\\' := by rcases hq with rfl | rfl <;> decide
  induction h with
  | nil =>
    rw [List.nil_append]
    cases rest with
    | nil => simp [maskFrom, hraw, hescape]
    | cons d rest => simp [maskFrom, hraw, hescape]
  | @escape c cs hc _ ih =>
    have hblank : blankOf c = ' ' := if_neg hc
    rw [List.cons_append, List.cons_append, maskFrom, if_pos (by simp [hraw]), ih, hblank]
    rfl
  | @char c cs hescape' hfeed hmark _ ih =>
    have hne : c ≠ q := by
      rintro rfl
      exact hmark (by simp)
    have hblank : blankOf c = ' ' := if_neg hfeed
    obtain ⟨d, tail, htail⟩ : ∃ d tail, cs ++ q :: rest = d :: tail := List.exists_cons_of_ne_nil (by simp)
    rw [List.cons_append, htail, maskFrom, if_neg (by simp [hescape']), if_neg (by simp [hne]), if_neg (by simp [hfeed]),
      ← htail, ih, hblank]
    rfl

theorem mask_tripleQuoted (hq : q = '"' ∨ q = '\'') (h : Within [q, q, q] cs) (rest : List Char) :
    maskFrom python (.tripleQuoted q) (cs ++ q :: q :: q :: rest) =
      List.replicate cs.length ' ' ++ q :: q :: q :: maskFrom python .code rest := by
  have hescape : q ≠ '\\' := by rcases hq with rfl | rfl <;> decide
  induction h with
  | nil => simp [maskFrom, hescape]
  | @escape c cs hc _ ih =>
    have hblank : blankOf c = ' ' := if_neg hc
    obtain ⟨d, tail, htail⟩ : ∃ d tail, cs ++ q :: q :: q :: rest = d :: tail := List.exists_cons_of_ne_nil (by simp)
    rw [List.cons_append, List.cons_append, htail, maskFrom, if_pos (by simp), ← htail, ih, hblank]
    rfl
  | @char c cs hescape' hfeed hmark _ ih =>
    have hblank : blankOf c = ' ' := if_neg hfeed
    obtain ⟨d, e, tail, htail⟩ : ∃ d e tail, cs ++ q :: q :: q :: rest = d :: e :: tail := by
      rcases cs with _ | ⟨d, _ | ⟨e, cs⟩⟩ <;> simp
    -- the mark would have to stand in front of the closing one
    have hopen : ¬ (c == q && d == q && (e :: tail).head? == some q) = true := by
      intro hall
      simp only [List.head?_cons, Bool.and_eq_true, beq_iff_eq, Option.some.injEq] at hall
      obtain ⟨⟨rfl, rfl⟩, rfl⟩ := hall
      apply hmark
      rcases cs with _ | ⟨d, _ | ⟨e, cs⟩⟩ <;> simp_all
    rw [List.cons_append, htail, maskFrom, if_neg (by simp [hescape']), if_neg hopen, ← htail, ih, hblank]
    rfl

theorem within_head (hq : q = '"' ∨ q = '\'') (h : Within [q] cs) : cs.head? ≠ some q := by
  cases h with
  | nil => simp
  | escape hc h =>
    rcases hq with rfl | rfl <;> simp
  | char hescape hfeed hmark h =>
    rintro hq
    obtain rfl := Option.some.inj hq
    exact hmark (by simp)

theorem mask_opening (hq : q = '"' ∨ q = '\'') (rest : List Char) :
    maskFrom python .code (q :: q :: q :: rest) = q :: q :: q :: maskFrom python (.tripleQuoted q) rest := by
  rcases hq with rfl | rfl <;> rw [maskFrom] <;> rfl

theorem mask_openingSingle (hq : q = '"' ∨ q = '\'') (hsingle : cs.head? ≠ some q ∨ cs.tail.head? ≠ some q)
    (hne : cs ≠ []) : maskFrom python .code (q :: cs) = q :: maskFrom python (.quoted q) cs := by
  obtain ⟨d, rest, rfl⟩ := List.exists_cons_of_ne_nil hne
  rw [List.head?_cons, List.tail_cons] at hsingle
  have htriple : ¬ (python.tripleQuotes && (q == '"' || q == '\'') && d == q && rest.head? == some q) = true := by
    intro hall
    simp only [Bool.and_eq_true, beq_iff_eq] at hall
    rcases hsingle with h | h
    · exact h (congrArg some hall.1.2)
    · exact h hall.2
  have hquotes : python.quotes.contains q = true := by rcases hq with rfl | rfl <;> rfl
  have hhash : ¬ (python.hashComments && q == '#') = true := by rcases hq with rfl | rfl <;> decide
  have hslash (x y : Bool) : ¬ (python.slashComments && x && y) = true := Bool.false_ne_true
  rcases rest with _ | ⟨e, rest⟩ <;>
    rw [maskFrom, if_neg hhash, if_neg (hslash _ _), if_neg (hslash _ _), if_neg htriple, if_pos hquotes]

theorem mask_literal (l : Literal) {rest : List Char} (hends : l.Ends rest) :
    maskFrom python .code (l.source ++ rest) = l.masked ++ maskFrom python .code rest := by
  obtain ⟨letters, q, triple, text, hletters, hq, hwithin⟩ := l
  have hplain : ∀ c ∈ "rRbBuUfF".toList, IsPlainChar c := List.all_iff_forall_prop.mp (by decide)
  simp only [Literal.source, Literal.masked, Literal.mark, List.append_assoc]
  rw [mask_plains fun c hc => hplain c (hletters c hc)]
  cases triple with
  | true =>
    simp only [↓reduceIte] at hwithin ⊢
    simp only [List.cons_append, List.nil_append]
    rw [mask_opening hq, mask_tripleQuoted hq hwithin]
  | false =>
    simp only [Bool.false_eq_true, ↓reduceIte] at hwithin ⊢
    simp only [List.cons_append, List.nil_append]
    rw [mask_openingSingle hq ?_ (by simp), mask_quoted hq hwithin]
    cases text with
    | nil => exact .inr (hends rfl rfl)
    | cons c text => exact .inl (show some c ≠ some q from within_head hq hwithin)

/-- The end of a line: a line feed or the end of the text. -/
def EndsLine (rest : List Char) : Prop := rest = [] ∨ ∃ more, rest = '\n' :: more

theorem mask_comment (hcs : '\n' ∉ cs) (hrest : EndsLine rest) :
    maskFrom python .code ('#' :: cs ++ rest) = List.replicate (cs.length + 1) ' ' ++ maskFrom python .code rest := by
  have hopen : maskFrom python .code ('#' :: cs ++ rest) = ' ' :: maskFrom python .lineComment (cs ++ rest) := by
    have hhash : python.hashComments = true := rfl
    rcases hall : cs ++ rest with _ | ⟨d, _ | ⟨e, tail⟩⟩ <;> rw [List.cons_append, hall, maskFrom] <;>
      simp [blankOf, maskFrom, hhash]
  have hinside : maskFrom python .lineComment (cs ++ rest) =
      List.replicate cs.length ' ' ++ maskFrom python .lineComment rest := by
    clear hopen
    induction cs with
    | nil => rfl
    | cons c cs ih =>
      obtain ⟨hc, hcs⟩ := not_or.mp (mt List.mem_cons.mpr hcs)
      have hc : ¬ c = '\n' := Ne.symm hc
      rw [List.cons_append, maskFrom, if_neg hc, ih hcs, blankOf, if_neg hc]
      rfl
  have hclose : maskFrom python .lineComment rest = maskFrom python .code rest := by
    rcases hrest with rfl | ⟨more, rfl⟩
    · simp [maskFrom]
    · rw [maskFrom_feed (m := .lineComment) python trivial, maskFrom_feed python Mode.plain_code]
      rfl
  rw [hopen, hinside, hclose]
  rfl

theorem mask_tail (t : LineTail) (hrest : EndsLine rest) :
    maskFrom python .code (t.source ++ rest) = t.masked ++ maskFrom python .code rest := by
  obtain ⟨gap, comment, hgap, hline⟩ := t
  simp only [LineTail.source, LineTail.masked, List.append_assoc]
  rw [mask_plains (isPlainChar_of_isGap hgap)]
  cases comment with
  | none => rfl
  | some text =>
    rw [Option.elim_some, Option.elim_some, mask_comment (hline text rfl) hrest]

/-- What follows a literal on a line cannot be taken for its marks. -/
theorem head_tail (t : LineTail) (hrest : EndsLine rest) (hq : q = '"' ∨ q = '\'') :
    (t.source ++ rest).head? ≠ some q := by
  obtain ⟨gap, comment, hgap, -⟩ := t
  have hne (d : Char) (hd : IsPlainChar d ∨ d = '#' ∨ d = '\n') : some d ≠ some q := by
    rintro heq
    obtain rfl := Option.some.inj heq
    rcases hd with hd | rfl | rfl
    · exact hq.elim hd.1 hd.2.1
    · rcases hq with hq | hq <;> cases hq
    · rcases hq with hq | hq <;> cases hq
  cases gap with
  | cons d gap => exact hne d (.inl (isPlainChar_of_isGap hgap d List.mem_cons_self))
  | nil =>
    cases comment with
    | some text => exact hne '#' (.inr (.inl rfl))
    | none =>
      rcases hrest with rfl | ⟨more, rfl⟩
      · simp [LineTail.source]
      · exact hne '\n' (.inr (.inr rfl))

theorem mask_filler (l : FillerLine) (hrest : EndsLine rest) :
    maskFrom python .code (l.source ++ rest) = l.masked ++ maskFrom python .code rest := by
  obtain ⟨indent, code, tail, hindent⟩ := l
  simp only [FillerLine.source, FillerLine.masked, List.append_assoc]
  rw [mask_plains (isPlainChar_of_isGap hindent)]
  have hpass : ∀ c ∈ "pass".toList, IsPlainChar c := List.all_iff_forall_prop.mp (by decide)
  have hellipsis : ∀ c ∈ "...".toList, IsPlainChar c := List.all_iff_forall_prop.mp (by decide)
  cases code with
  | nothing => exact congrArg (indent ++ ·) (mask_tail tail hrest)
  | pass => simp only [Placeholder.source, Placeholder.masked, mask_plains hpass, mask_tail tail hrest]
  | ellipsis => simp only [Placeholder.source, Placeholder.masked, mask_plains hellipsis, mask_tail tail hrest]
  | literal l =>
    have hends : l.Ends (tail.source ++ rest) := fun _ _ => head_tail tail hrest l.quote_eq
    simp only [Placeholder.source, Placeholder.masked, mask_literal l hends, mask_tail tail hrest]

theorem mask_reads {ds : List Char} (h : Reads cs ds) (hrest : rest.head? ≠ some '"' ∧ rest.head? ≠ some '\'') :
    maskFrom python .code (cs ++ rest) = ds ++ maskFrom python .code rest := by
  induction h with
  | nil => rfl
  | char hc _ ih => rw [List.cons_append, mask_plain hc, ih, List.cons_append]
  | @literal l cs ds hends _ ih =>
    have hends : l.Ends (cs ++ rest) := by
      intro hsingle htext
      cases cs with
      | nil =>
        rcases l.quote_eq with hq | hq <;> rw [hq]
        · exact hrest.1
        · exact hrest.2
      | cons c cs => exact hends hsingle htext
    rw [List.append_assoc, mask_literal l hends, ih, List.append_assoc]

theorem isPlainChar_of_isWord (hc : Text.isWord c) : IsPlainChar c := by
  refine ⟨?_, ?_, ?_, ?_⟩ <;> rintro rfl <;> revert hc <;> decide

/-- Only blanks and word characters stand before the parenthesis. -/
theorem TestHeader.mem_words {h : TestHeader} (hc : c ∈ h.words) : (Text.isBlankChar c ∧ c ≠ '\n') ∨ Text.isWord c := by
  have hasync : ∀ c ∈ h.async.elim [] ("async".toList ++ ·), (Text.isBlankChar c ∧ c ≠ '\n') ∨ Text.isWord c := by
    intro c hc
    cases hbetween : h.async with
    | none => simp [hbetween] at hc
    | some between =>
      rw [hbetween, Option.elim_some, List.mem_append] at hc
      rcases hc with hc | hc
      · exact .inr (List.all_eq_true.mp (by decide : "async".toList.all Text.isWord) c hc)
      · exact .inl ((h.async_isGap between hbetween).1 c hc)
  simp only [TestHeader.words, List.mem_append] at hc
  rcases hc with ((((hc | hc) | hc) | hc) | hc | hc) | hc
  · exact .inl (h.indent_isGap c hc)
  · exact hasync c hc
  · exact .inr (List.all_eq_true.mp (by decide : "def".toList.all Text.isWord) c hc)
  · exact .inl (h.gap_isGap.1 c hc)
  · exact .inr (List.all_eq_true.mp (by decide : "test".toList.all Text.isWord) c hc)
  · exact .inr (h.name_isWord c hc)
  · exact .inl (h.space_isGap c hc)

theorem TestHeader.head_plain (h : TestHeader) : ∀ c ∈ h.head, IsPlainChar c := by
  intro c hc
  rcases List.mem_append.mp hc with hc | hc
  · rcases TestHeader.mem_words hc with hblank | hword
    · exact isPlainChar_of_blank hblank
    · exact isPlainChar_of_isWord hword
  · rw [List.mem_singleton.mp hc]
    decide

theorem mask_header (h : TestHeader) (hrest : EndsLine rest) :
    maskFrom python .code (h.source ++ rest) = h.masked ++ maskFrom python .code rest := by
  have hcolon : IsPlainChar ':' := by decide
  simp only [TestHeader.source, TestHeader.masked, List.append_assoc, List.cons_append]
  rw [mask_plains h.head_plain, mask_reads h.reads (by simp), mask_plain hcolon, mask_tail h.tail hrest]

end Masking

end Lexical

end CodeAudit
