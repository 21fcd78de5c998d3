import CodeAudit.Proofs.Lexical.IndentBlock
import CodeAudit.Proofs.Lexical.PythonLines
import CodeAudit.Proofs.Path
import Mathlib.Data.List.TakeWhile

/-! The lines of masked Python code, and the block of a test whose body does nothing. -/
namespace CodeAudit

namespace Text

variable {gap core behind rest x y : Chars} {c : Char}

theorem isBlank_ofList (y : Chars) : isBlank (String.ofList y) ↔ ∀ c ∈ y, isBlankChar c := by
  rw [isBlank, String.toList_ofList, List.all_eq_true]

theorem trimChars_blank (h : ∀ c ∈ x, isBlankChar c) : trimChars x = [] := by
  rw [trimChars, trimStartChars, List.dropWhile_eq_nil_iff.mpr h]
  rfl

/-- Blanks on both sides are cut off. -/
theorem trimChars_padded (hgap : ∀ c ∈ gap, isBlankChar c) (hbehind : ∀ c ∈ behind, isBlankChar c)
    (hhead : ∃ c rest, core = c :: rest ∧ ¬ isBlankChar c) (hlast : ∃ front c, core = front ++ [c] ∧ ¬ isBlankChar c) :
    trimChars (gap ++ core ++ behind) = core := by
  have hstart : trimStartChars (gap ++ core ++ behind) = core ++ behind := by
    obtain ⟨c, rest, rfl, hc⟩ := hhead
    rw [trimStartChars, List.append_assoc, List.dropWhile_append_of_pos hgap, List.cons_append,
      List.dropWhile_cons_of_neg hc]
  have hbehind' : ∀ c ∈ behind.reverse, isBlankChar c := fun c hc => hbehind c (List.mem_reverse.mp hc)
  obtain ⟨front, c, rfl, hc⟩ := hlast
  rw [trimChars, hstart, trimEndChars, trimEndWhile, List.reverse_append, List.dropWhile_append_of_pos hbehind',
    List.reverse_append, List.reverse_singleton, List.singleton_append, List.dropWhile_cons_of_neg hc]
  simp

/-- What becomes of a piece as a line. -/
def IsLineOf (x y : Chars) : Prop := y = x ∨ y = dropReturn x

/-- Only a carriage return is lost. -/
theorem IsLineOf.subset (h : IsLineOf x y) : y ⊆ x := by
  rcases h with rfl | rfl
  · exact List.Subset.refl _
  · unfold dropReturn
    split
    · exact List.dropLast_subset x
    · exact List.Subset.refl x

/-- Nothing up to a character that is not blank is lost. -/
theorem IsLineOf.exists_behind {front : Chars} (h : IsLineOf (front ++ c :: behind) y) (hc : ¬ isBlankChar c) :
    ∃ behind', y = front ++ c :: behind' ∧ behind' ⊆ behind := by
  rcases h with rfl | rfl
  · exact ⟨behind, rfl, List.Subset.refl behind⟩
  rcases List.eq_nil_or_concat' behind with rfl | ⟨init, d, rfl⟩
  · have hreturn : c ≠ '\r' := by
      rintro rfl
      exact hc (by decide)
    exact ⟨[], by rw [dropReturn_concat, if_neg hreturn], List.Subset.refl []⟩
  · rw [← List.cons_append, ← List.append_assoc, dropReturn_concat]
    split
    · exact ⟨init, rfl, List.subset_append_left init [d]⟩
    · exact ⟨init ++ [d], List.append_assoc _ _ _, List.Subset.refl _⟩

/-- The lines below the line that a text begins with the end of. -/
def linesBelow : Chars → List Chars
  | [] => []
  | _ :: rest => lineChars rest

theorem lineChars_append_feed (hx : '\n' ∉ x) (rest : Chars) :
    lineChars (x ++ '\n' :: rest) = dropReturn x :: lineChars rest := by
  rw [lineChars, splitChars_append_sep, splitChars_of_notMem hx, finishLines_append _ (splitChars_ne_nil '\n' rest)]
  rfl

/-- A line stands above the lines below it, but for an empty one at the end of the text. -/
theorem exists_lineChars (hx : '\n' ∉ x) (hrest : Lexical.EndsLine rest) :
    (∃ y, IsLineOf x y ∧ lineChars (x ++ rest) = y :: linesBelow rest) ∨
      x = [] ∧ lineChars (x ++ rest) = linesBelow rest := by
  rcases hrest with rfl | ⟨more, rfl⟩
  · cases x with
    | nil => exact .inr ⟨rfl, rfl⟩
    | cons c x =>
      refine .inl ⟨c :: x, .inl rfl, ?_⟩
      rw [List.append_nil, lineChars, splitChars_of_notMem hx]
      rfl
  · exact .inl ⟨dropReturn x, .inr rfl, lineChars_append_feed hx more⟩

/-- Every text begins with a line. -/
theorem exists_endsLine (cs : Chars) : ∃ line rest, cs = line ++ rest ∧ '\n' ∉ line ∧ Lexical.EndsLine rest := by
  induction cs with
  | nil => exact ⟨[], [], rfl, by simp, .inl rfl⟩
  | cons c cs ih =>
    by_cases hc : c = '\n'
    · exact ⟨[], c :: cs, rfl, by simp, .inr ⟨cs, by rw [hc]⟩⟩
    · obtain ⟨line, rest, rfl, hline, hrest⟩ := ih
      exact ⟨c :: line, rest, rfl, by simp [Ne.symm hc, hline], hrest⟩

theorem endsLine_flatMap (pieces : List Chars) (hrest : Lexical.EndsLine rest) :
    Lexical.EndsLine (pieces.flatMap ('\n' :: ·) ++ rest) := by
  cases pieces with
  | nil => exact hrest
  | cons x pieces => exact .inr ⟨_, rfl⟩

/-- Pieces that come below each other are the lines there, but for an empty one at the end of the text. -/
theorem exists_linesBelow {pieces : List Chars} (hpieces : ∀ x ∈ pieces, '\n' ∉ x) (hrest : Lexical.EndsLine rest) :
    ∃ xs, linesBelow (pieces.flatMap ('\n' :: ·) ++ rest) = xs ++ linesBelow rest ∧
      (∀ y ∈ xs, ∃ x ∈ pieces, IsLineOf x y) ∧ ∀ x ∈ pieces, x ≠ [] → ∃ y ∈ xs, IsLineOf x y := by
  induction pieces with
  | nil => exact ⟨[], rfl, by simp, by simp⟩
  | cons x pieces ih =>
    obtain ⟨xs, hxs, hfrom, hto⟩ := ih fun y hy => hpieces y (List.mem_cons_of_mem x hy)
    have hfrom' : ∀ y ∈ xs, ∃ z ∈ x :: pieces, IsLineOf z y := by
      intro y hy
      obtain ⟨z, hz, hzy⟩ := hfrom y hy
      exact ⟨z, List.mem_cons_of_mem x hz, hzy⟩
    rw [List.flatMap_cons, List.append_assoc, List.cons_append, linesBelow]
    rcases exists_lineChars (hpieces x List.mem_cons_self) (endsLine_flatMap pieces hrest) with
      ⟨y, hxy, hlines⟩ | ⟨rfl, hlines⟩
    · refine ⟨y :: xs, by rw [hlines, hxs, List.cons_append], ?_, ?_⟩
      · exact List.forall_mem_cons.mpr ⟨⟨x, List.mem_cons_self, hxy⟩, hfrom'⟩
      · intro z hz hne
        rcases List.mem_cons.mp hz with rfl | hz
        · exact ⟨y, List.mem_cons_self, hxy⟩
        · obtain ⟨w, hw, hzw⟩ := hto z hz hne
          exact ⟨w, List.mem_cons_of_mem y hw, hzw⟩
    · refine ⟨xs, by rw [hlines, hxs], hfrom', ?_⟩
      intro z hz hne
      exact hto z ((List.mem_cons.mp hz).resolve_left hne) hne

/-- The lines from the one on that begins behind a text. -/
theorem drop_lineChars {above : Chars} (habove : above = [] ∨ ∃ init, above = init ++ ['\n']) (cs : Chars) :
    (lineChars (above ++ cs)).drop (above.count '\n') = lineChars cs := by
  rcases habove with rfl | ⟨init, rfl⟩
  · rfl
  · have hcount : (init ++ ['\n']).count '\n' = ((splitChars '\n' init).map dropReturn).length := by
      rw [List.length_map, length_splitChars, List.count_append, List.count_singleton_self]
    rw [hcount, List.append_assoc, List.singleton_append, lineChars, splitChars_append_sep,
      finishLines_append _ (splitChars_ne_nil '\n' cs)]
    exact List.drop_left

end Text

namespace Lexical

variable {cs ds x y : List Char}

theorem indentChars_append {gap : List Char} {c : Char} (hc : ¬ Text.isBlankChar c) :
    indentChars (gap ++ c :: x) = indentChars (gap ++ c :: y) := by
  induction gap with
  | nil =>
    have hspace : c ≠ ' ' := by
      rintro rfl
      exact hc (by decide)
    have htab : c ≠ '\t' := by
      rintro rfl
      exact hc (by decide)
    simp [indentChars, hspace, htab]
  | cons d gap ih =>
    by_cases hspace : d = ' '
    · subst hspace
      simp only [List.cons_append, indentChars, ih]
    · by_cases htab : d = '\t'
      · subst htab
        simp only [List.cons_append, indentChars, ih]
      · simp [indentChars, hspace, htab]

namespace Literal

theorem quote_notBlank (l : Literal) : ¬ Text.isBlankChar l.quote := by
  rcases l.quote_eq with h | h <;> rw [h] <;> decide

theorem masked_feed (l : Literal) : '\n' ∉ l.masked := by
  have hletters : '\n' ∉ l.letters := fun h => (by decide : '\n' ∉ "rRbBuUfF".toList) (l.letters_plain _ h)
  have hmark : '\n' ∉ l.mark := by
    unfold mark
    rcases l.quote_eq with h | h <;> rw [h] <;> split <;> decide
  simp [masked, hletters, hmark]

theorem mark_cons (l : Literal) : ∃ rest, l.mark = l.quote :: rest := by
  unfold mark
  split <;> exact ⟨_, rfl⟩

theorem mark_concat (l : Literal) : ∃ front, l.mark = front ++ [l.quote] := by
  unfold mark
  split
  · exact ⟨[l.quote, l.quote], rfl⟩
  · exact ⟨[], rfl⟩

end Literal

namespace Placeholder

/-- Some code stands there. -/
def IsCode : Placeholder → Prop
  | nothing => False
  | _ => True

theorem head_masked {p : Placeholder} (hp : p.IsCode) :
    ∃ c rest rest', p.source = c :: rest ∧ p.masked = c :: rest' ∧ ¬ Text.isBlankChar c := by
  cases p with
  | nothing => exact hp.elim
  | pass => exact ⟨'p', _, _, rfl, rfl, by decide⟩
  | ellipsis => exact ⟨'.', _, _, rfl, rfl, by decide⟩
  | literal l =>
    simp only [source, masked, Literal.source, Literal.masked]
    cases hletters : l.letters with
    | nil =>
      obtain ⟨rest, hmark⟩ := l.mark_cons
      exact ⟨l.quote, _, _, by rw [hmark]; rfl, by rw [hmark]; rfl, l.quote_notBlank⟩
    | cons c letters =>
      have hletter : ∀ c ∈ "rRbBuUfF".toList, ¬ Text.isBlankChar c := List.all_iff_forall_prop.mp (by decide)
      exact ⟨c, _, _, rfl, rfl, hletter c (l.letters_plain c (hletters ▸ List.mem_cons_self))⟩

theorem last_masked {p : Placeholder} (hp : p.IsCode) : ∃ front c, p.masked = front ++ [c] ∧ ¬ Text.isBlankChar c := by
  cases p with
  | nothing => exact hp.elim
  | pass => exact ⟨"pas".toList, 's', rfl, by decide⟩
  | ellipsis => exact ⟨"..".toList, '.', rfl, by decide⟩
  | literal l =>
    obtain ⟨front, hmark⟩ := l.mark_concat
    refine ⟨l.letters ++ l.mark ++ List.replicate l.text.length ' ' ++ front, l.quote, ?_, l.quote_notBlank⟩
    rw [List.append_assoc _ front, ← hmark]
    rfl

theorem masked_feed (p : Placeholder) : '\n' ∉ p.masked := by
  cases p with
  | nothing => simp [masked, source]
  | pass => decide
  | ellipsis => decide
  | literal l => exact l.masked_feed

end Placeholder

/-- Of a comment blanks are left. -/
theorem LineTail.isGap_masked (t : LineTail) : IsGap t.masked := by
  intro c hc
  rcases List.mem_append.mp hc with hc | hc
  · exact t.isGap c hc
  · cases hcomment : t.comment with
    | none => simp [hcomment] at hc
    | some text =>
      rw [hcomment, Option.elim_some] at hc
      rw [List.eq_of_mem_replicate hc]
      decide

theorem IsGap.feed (h : IsGap cs) : '\n' ∉ cs := fun hc => (h '\n' hc).2 rfl

namespace FillerLine

theorem masked_feed (l : FillerLine) : '\n' ∉ l.masked := by
  simp [masked, l.isGap.feed, l.code.masked_feed, l.tail.isGap_masked.feed]

/-- A line without code is blank. -/
theorem isBlank_line {l : FillerLine} (hp : ¬ l.code.IsCode) (h : Text.IsLineOf l.masked y) :
    Text.isBlank (String.ofList y) := by
  have hcode : l.code.masked = [] := by
    cases hplaceholder : l.code <;> simp_all [Placeholder.IsCode, Placeholder.masked, Placeholder.source]
  rw [Text.isBlank_ofList]
  intro c hc
  have hmem := h.subset hc
  simp only [masked, hcode, List.append_nil, List.mem_append] at hmem
  rcases hmem with hc | hc
  · exact (l.isGap c hc).1
  · exact (l.tail.isGap_masked c hc).1

/-- A line with code shows what is left of it, at its place. -/
theorem code_line {l : FillerLine} (hp : l.code.IsCode) (h : Text.IsLineOf l.masked y) :
    Text.trim (String.ofList y) = String.ofList l.code.masked ∧ ¬ Text.isBlank (String.ofList y) ∧
      indentWidth (String.ofList y) = indentChars l.source := by
  obtain ⟨front, last, hfront, hlast⟩ := Placeholder.last_masked hp
  obtain ⟨c, rest, rest', hsource, hmasked, hc⟩ := Placeholder.head_masked hp
  have hline : l.masked = l.indent ++ front ++ last :: l.tail.masked := by simp [masked, hfront]
  rw [hline] at h
  obtain ⟨behind, rfl, hbehind⟩ := h.exists_behind hlast
  have hshown : l.indent ++ front ++ last :: behind = l.indent ++ l.code.masked ++ behind := by simp [hfront]
  have htrim : Text.trimChars (l.indent ++ l.code.masked ++ behind) = l.code.masked :=
    Text.trimChars_padded (fun c hc => (l.isGap c hc).1) (fun c hc => (l.tail.isGap_masked c (hbehind hc)).1)
      ⟨c, rest', hmasked, hc⟩ ⟨front, last, hfront, hlast⟩
  rw [hshown, Text.trim, Text.isBlank_ofList, indentWidth, String.toList_ofList, htrim]
  refine ⟨rfl, fun hall => hlast (hall last (by simp [hfront])), ?_⟩
  rw [source, hsource, hmasked, List.append_assoc, List.append_assoc, List.cons_append, List.cons_append]
  exact indentChars_append hc

theorem masked_ne_nil {l : FillerLine} (hp : l.code.IsCode) : l.masked ≠ [] := by
  obtain ⟨c, -, rest, -, hmasked, -⟩ := Placeholder.head_masked hp
  simp [masked, hmasked]

end FillerLine

theorem Reads.feed (h : Reads cs ds) : '\n' ∉ ds := by
  induction h with
  | nil => simp
  | char hc _ ih => simp [hc.2.2.2.symm, ih]
  | @literal l cs ds _ _ ih => simp [l.masked_feed, ih]

theorem bracketChange_eq_zero {c : Char} (hc : Text.isBlankChar c ∨ Text.isWord c) : bracketChange c = 0 := by
  have hopens : ∀ d ∈ "([\x7b)]\x7d".toList, ¬ (Text.isBlankChar d ∨ Text.isWord d) :=
    List.all_iff_forall_prop.mp (by decide)
  have hnot : c ∉ "([\x7b)]\x7d".toList := fun hmem => hopens c hmem hc
  unfold bracketChange
  simp only [String.reduceToList, List.mem_cons, not_or, List.not_mem_nil] at hnot
  simp [hnot]

/-- What opens and closes nothing does not count. -/
theorem bracketBalance_append (hcs : ∀ c ∈ cs, bracketChange c = 0) (ds : List Char) :
    bracketBalance (String.ofList (cs ++ ds)) = bracketBalance (String.ofList ds) ∧
      bracketBalance (String.ofList (ds ++ cs)) = bracketBalance (String.ofList ds) := by
  have hnone (n : Int32) : cs.foldl (fun n c => n + bracketChange c) n = n := by
    induction cs generalizing n with
    | nil => rfl
    | cons c cs ih =>
      rw [List.foldl_cons, hcs c List.mem_cons_self, Int32.add_zero, ih fun d hd => hcs d (List.mem_cons_of_mem c hd)]
  simp only [bracketBalance, String.toList_ofList, List.foldl_append, hnone, and_self]

namespace TestHeader

theorem masked_feed (h : TestHeader) : '\n' ∉ h.masked := by
  have hhead : '\n' ∉ h.head := fun hc => (h.head_plain _ hc).2.2.2 rfl
  simp [masked, hhead, h.reads.feed, h.tail.isGap_masked.feed]

theorem exists_line {h : TestHeader} (hy : Text.IsLineOf h.masked y) :
    ∃ behind, y = h.head ++ h.code ++ ':' :: behind ∧ IsGap behind := by
  obtain ⟨behind, hbehind, hsubset⟩ := hy.exists_behind (by decide)
  exact ⟨behind, hbehind, fun c hc => h.tail.isGap_masked c (hsubset hc)⟩

/-- The header stays at its place. -/
theorem indent_line {h : TestHeader} (hy : Text.IsLineOf h.masked y) : indentChars y = indentChars h.source := by
  obtain ⟨behind, rfl, -⟩ := exists_line hy
  obtain ⟨c, rest, hwords, hc⟩ : ∃ c rest, h.words = h.indent ++ c :: rest ∧ ¬ Text.isBlankChar c := by
    unfold words
    cases h.async with
    | none => exact ⟨'d', _, by simp only [Option.elim_none, List.append_nil, List.append_assoc]; rfl, by decide⟩
    | some between => exact ⟨'a', _, by simp only [Option.elim_some, List.append_assoc]; rfl, by decide⟩
  simp only [source, head, hwords, List.append_assoc, List.cons_append]
  exact indentChars_append hc

/-- Its brackets are closed on its line. -/
theorem balance_line {h : TestHeader} (hy : Text.IsLineOf h.masked y) : bracketBalance (String.ofList y) ≤ 0 := by
  obtain ⟨behind, rfl, hbehind⟩ := exists_line hy
  have hwords : ∀ c ∈ h.words, bracketChange c = 0 := fun c hc =>
    bracketChange_eq_zero ((mem_words hc).imp And.left id)
  have hrest : ∀ c ∈ ':' :: behind, bracketChange c = 0 := by
    intro c hc
    rcases List.mem_cons.mp hc with rfl | hc
    · decide
    · exact bracketChange_eq_zero (.inl (hbehind c hc).1)
  rw [(bracketBalance_append hrest _).2, head, List.append_assoc, (bracketBalance_append hwords _).1]
  exact h.closed

end TestHeader

/-- Behind a text the masking goes on in code: no literal is open. -/
def EndsInCode (above : List Char) : Prop :=
  ∀ rest, maskFrom python .code (above ++ rest) = maskFrom python .code above ++ maskFrom python .code rest

/-- What stands below a block: nothing, or a line of code that is not deeper than the given width. -/
inductive Dedents (base : Nat) : List Char → Prop
  | done : Dedents base []
  | feed : Dedents base ['\n']
  | line {gap more : List Char} {c : Char} (hgap : IsGap gap) (hblank : ¬ Text.isBlankChar c) (hcomment : c ≠ '#')
      (hbase : indentChars (gap ++ c :: more) ≤ base) : Dedents base ('\n' :: (gap ++ c :: more))

theorem mask_feed (rest : List Char) : maskFrom python .code ('\n' :: rest) = '\n' :: maskFrom python .code rest :=
  maskFrom_feed python Mode.plain_code rest

theorem endsInCode_line (h : ∀ c ∈ cs, IsPlainChar c) : EndsInCode (cs ++ ['\n']) := by
  intro rest
  rw [List.append_assoc, mask_plains h, mask_plains h, List.singleton_append, mask_feed, mask_feed, maskFrom]
  simp

/-- Only a comment is lost from its first character on. -/
theorem mask_first {c : Char} (hc : c ≠ '#') (rest : List Char) :
    ∃ masked, maskFrom python .code (c :: rest) = c :: masked := by
  have hhash : ¬ (python.hashComments && c == '#') = true := by simp [hc]
  have hslash (x y : Bool) : ¬ (python.slashComments && x && y) = true := Bool.false_ne_true
  rcases rest with _ | ⟨d, _ | ⟨e, rest⟩⟩
  · exact ⟨[], by rw [maskFrom, if_neg hhash]⟩
  all_goals
    rw [maskFrom, if_neg hhash, if_neg (hslash _ _), if_neg (hslash _ _)]
    split
    · exact ⟨_, rfl⟩
    · split <;> exact ⟨_, rfl⟩

theorem Dedents.endsLine {base : Nat} {below : List Char} (h : Dedents base below) : EndsLine below := by
  cases h with
  | done => exact .inl rfl
  | feed => exact .inr ⟨_, rfl⟩
  | line => exact .inr ⟨_, rfl⟩

theorem Dedents.linesBelow {base : Nat} {below : List Char} (h : Dedents base below) :
    EndsLine (maskFrom python .code below) ∧ ∀ y ∈ (Text.linesBelow (maskFrom python .code below)).head?,
      (∃ c ∈ y, ¬ Text.isBlankChar c) ∧ indentChars y ≤ base := by
  cases h with
  | done => exact ⟨.inl (by rw [maskFrom]), by simp [maskFrom, Text.linesBelow]⟩
  | feed =>
    have hbelow : maskFrom python .code ['\n'] = ['\n'] := by rw [mask_feed, maskFrom]
    rw [hbelow]
    exact ⟨.inr ⟨_, rfl⟩, by simp [Text.linesBelow, Text.lineChars, Text.splitChars, Text.finishLines]⟩
  | @line gap more c hgap hblank hcomment hbase =>
    obtain ⟨masked, hmasked⟩ := mask_first hcomment more
    obtain ⟨line, rest, rfl, hline, hrest⟩ := Text.exists_endsLine masked
    have hfeed : '\n' ∉ gap ++ c :: line := by
      have hc : '\n' ≠ c := by
        rintro rfl
        exact hblank (by decide)
      simp [hgap.feed, hc, hline]
    obtain ⟨y, hy, hlines⟩ := (Text.exists_lineChars hfeed hrest).resolve_right (by simp)
    obtain ⟨behind, rfl, -⟩ := hy.exists_behind hblank
    have hbelow : maskFrom python .code ('\n' :: (gap ++ c :: more)) = '\n' :: (gap ++ c :: line ++ rest) := by
      rw [mask_feed, mask_plains (isPlainChar_of_isGap hgap), hmasked, List.append_assoc, List.cons_append]
    rw [hbelow, Text.linesBelow, hlines]
    refine ⟨.inr ⟨_, rfl⟩, ?_⟩
    rintro _ ⟨⟩
    refine ⟨⟨c, by simp, hblank⟩, ?_⟩
    rw [indentChars_append hblank]
    exact hbase

section Block

variable {lines xs ys : List String} {header : String} {i : Nat}

/-- A header with its brackets closed stands above its body: lines that are blank or deeper, up to one that is neither.
Those of them that are not blank are the lines of its block. -/
theorem mem_block_iff (hlines : lines.drop i = header :: (xs ++ ys)) (hclosed : bracketBalance header ≤ 0)
    (hinside : ∀ x ∈ xs, InBody (indentWidth header) x) (hends : ∀ y ∈ ys.head?, ¬ InBody (indentWidth header) y)
    {x : String} (hx : ¬ Text.isBlank x) :
    x ∈ (lines.drop (i + 1)).take (indentBlockEnd lines i - i) ↔ x ∈ xs := by
  have hbody : lines.drop (i + 1) = xs ++ ys := drop_succ_of_drop hlines
  have hget (k : Nat) : lines[i + 1 + k]? = (xs ++ ys)[k]? := by rw [← hbody, List.getElem?_drop]
  have hend : indentBlockEnd lines i = bodyEnd (indentWidth header) i (i + 1) (xs ++ ys) := by
    have hhead : headerEnd i i 0 (lines.drop i) = i := by
      rw [hlines, headerEnd, if_pos (.inl (by rw [Int32.zero_add]; exact hclosed))]
    rw [indentBlockEnd, getElem?_of_drop hlines]
    simp only [hhead, hbody]
  obtain ⟨r, hrun, hlast⟩ := exists_bodyRun (indentWidth header) hbody (Nat.lt_succ_self i) (lt_of_drop hlines)
    (fun j line hj hlt _ => by omega)
    ⟨Nat.le_refl i, Nat.lt_succ_self i, fun j line hj hlt _ => by omega, fun hne => absurd rfl hne⟩
  rw [← hend] at hlast
  -- the run goes on to the end of the given lines and no further
  have hr : r = i + 1 + xs.length := by
    rcases Nat.lt_trichotomy r (i + 1 + xs.length) with hlt | heq | hgt
    · obtain ⟨k, rfl⟩ : ∃ k, r = i + 1 + k := ⟨r - (i + 1), by have := hrun.lt; omega⟩
      have hk : k < xs.length := by omega
      refine absurd (hinside _ (List.getElem_mem hk)) (hrun.ends _ ?_)
      rw [hget, List.getElem?_append_left hk, List.getElem?_eq_getElem hk]
    · exact heq
    · obtain ⟨y, hy⟩ : ∃ y, lines[i + 1 + xs.length]? = some y :=
        ⟨_, List.getElem?_eq_getElem (Nat.lt_of_lt_of_le hgt hrun.le_length)⟩
      have hhead : y ∈ ys.head? := by
        rw [hget, List.getElem?_append_right (Nat.le_refl _), Nat.sub_self] at hy
        rw [List.head?_eq_getElem?, hy]
        rfl
      exact absurd (hrun.inside _ y (by omega) hgt hy) (hends y hhead)
  have hshort : indentBlockEnd lines i - i ≤ xs.length := by
    have := hlast.lt
    omega
  rw [hbody, List.take_append_of_le_length hshort]
  refine ⟨List.mem_of_mem_take, fun hmem => ?_⟩
  obtain ⟨k, hk, rfl⟩ := List.getElem_of_mem hmem
  rcases Nat.lt_or_ge k (indentBlockEnd lines i - i) with hlt | hge
  · exact List.mem_take_iff_getElem.mpr ⟨k, by omega, rfl⟩
  · have hline : lines[i + 1 + k]? = some xs[k] := by
      rw [hget, List.getElem?_append_left hk, List.getElem?_eq_getElem hk]
    exact absurd (hlast.blank (i + 1 + k) _ (by omega) (by omega) hline) hx

end Block

/-- A test in a text whose body does nothing. What does something there is below it. -/
structure FillerTest where
  above : List Char
  header : TestHeader
  body : List FillerLine
  below : List Char
  starts : above = [] ∨ ∃ init, above = init ++ ['\n']
  inCode : EndsInCode above
  deeper : ∀ l ∈ body, l.code.IsCode → indentChars header.source < indentChars l.source
  ends : Dedents (indentChars header.source) below

namespace FillerTest

def content (t : FillerTest) : List Char :=
  t.above ++ (t.header.source ++ ((t.body.map FillerLine.source).flatMap ('\n' :: ·) ++ t.below))

/-- The number of lines above the test. -/
def place (t : FillerTest) : Nat := t.above.count '\n'

theorem mask_body (body : List FillerLine) {rest : List Char} (hrest : EndsLine rest) :
    maskFrom python .code ((body.map FillerLine.source).flatMap ('\n' :: ·) ++ rest) =
      (body.map FillerLine.masked).flatMap ('\n' :: ·) ++ maskFrom python .code rest := by
  induction body with
  | nil => rfl
  | cons l body ih =>
    simp only [List.map_cons, List.flatMap_cons, List.append_assoc, List.cons_append]
    rw [mask_feed, mask_filler l (Text.endsLine_flatMap _ hrest), ih]

theorem mask_content (t : FillerTest) : maskFrom python .code t.content = maskFrom python .code t.above ++
    (t.header.masked ++ ((t.body.map FillerLine.masked).flatMap ('\n' :: ·) ++ maskFrom python .code t.below)) := by
  rw [content, t.inCode, mask_header t.header (Text.endsLine_flatMap _ t.ends.endsLine),
    mask_body t.body t.ends.endsLine]

theorem starts_mask (t : FillerTest) :
    maskFrom python .code t.above = [] ∨ ∃ init, maskFrom python .code t.above = init ++ ['\n'] := by
  have hcovered := coveredBy_maskFrom python .code t.above
  rcases t.starts with habove | ⟨init, habove⟩
  · exact .inl (by rw [habove, maskFrom])
  · rw [habove] at hcovered
    obtain ⟨front, feed, hfront, -, hfeed⟩ := Text.forall₂_concat_left hcovered
    exact .inr ⟨front, by rw [habove, hfront, hfeed.feed.mpr rfl]⟩

/-- The lines from the header on: those of the body, and then those below. -/
theorem exists_lines (t : FillerTest) : ∃ h xs ys,
    (Text.lineChars (maskFrom python .code t.content)).drop t.place = h :: (xs ++ ys) ∧ Text.IsLineOf t.header.masked h ∧
      (∀ y ∈ ys.head?, (∃ c ∈ y, ¬ Text.isBlankChar c) ∧ indentChars y ≤ indentChars t.header.source) ∧
      (∀ x ∈ xs, ∃ l ∈ t.body, Text.IsLineOf l.masked x) ∧
      ∀ l ∈ t.body, l.masked ≠ [] → ∃ x ∈ xs, Text.IsLineOf l.masked x := by
  obtain ⟨hbelow, hdedents⟩ := t.ends.linesBelow
  have hne : t.header.masked ≠ [] := by simp [TestHeader.masked]
  obtain ⟨h, hheader, hlines⟩ := (Text.exists_lineChars t.header.masked_feed
    (Text.endsLine_flatMap (t.body.map FillerLine.masked) hbelow)).resolve_right fun hempty => hne hempty.1
  obtain ⟨xs, hxs, hfrom, hto⟩ := Text.exists_linesBelow
    (List.forall_mem_map.mpr fun l (_ : l ∈ t.body) => l.masked_feed) hbelow
  refine ⟨h, xs, Text.linesBelow (maskFrom python .code t.below), ?_, hheader, hdedents, ?_,
    fun l hl => hto _ (List.mem_map_of_mem hl)⟩
  · rw [t.mask_content, place, ← count_feed (coveredBy_maskFrom python .code t.above), Text.drop_lineChars t.starts_mask,
      hlines, hxs]
  · intro x hx
    obtain ⟨piece, hpiece, hline⟩ := hfrom x hx
    obtain ⟨l, hl, rfl⟩ := List.mem_map.mp hpiece
    exact ⟨l, hl, hline⟩

/-- The lines of the body are inside the block of the header, and no line below is. -/
theorem exists_block (t : FillerTest) : ∃ (h : List Char) (xs ys : List (List Char)),
    (Text.lines (mask .python (String.ofList t.content))).drop t.place =
        String.ofList h :: (xs.map String.ofList ++ ys.map String.ofList) ∧
      Text.IsLineOf t.header.masked h ∧
      (∀ x ∈ xs.map String.ofList, InBody (indentWidth (String.ofList h)) x) ∧
      (∀ y ∈ (ys.map String.ofList).head?, ¬ InBody (indentWidth (String.ofList h)) y) ∧
      (∀ x ∈ xs, ∃ l ∈ t.body, Text.IsLineOf l.masked x) ∧
      ∀ l ∈ t.body, l.code.IsCode → ∃ x ∈ xs, Text.IsLineOf l.masked x := by
  obtain ⟨h, xs, ys, hlines, hheader, hbelow, hfrom, hto⟩ := t.exists_lines
  have hbase : indentWidth (String.ofList h) = indentChars t.header.source := by
    rw [indentWidth, String.toList_ofList, TestHeader.indent_line hheader]
  refine ⟨h, xs, ys, ?_, hheader, ?_, ?_, hfrom, fun l hl hcode => hto l hl (FillerLine.masked_ne_nil hcode)⟩
  · rw [Text.lines, ← List.map_drop, mask, String.toList_ofList, String.toList_ofList, maskChars, hlines, List.map_cons,
      List.map_append]
  · intro x hx
    obtain ⟨y, hy, rfl⟩ := List.mem_map.mp hx
    obtain ⟨l, hl, hline⟩ := hfrom y hy
    by_cases hcode : l.code.IsCode
    · right
      rw [hbase, (FillerLine.code_line hcode hline).2.2]
      exact t.deeper l hl hcode
    · exact .inl (FillerLine.isBlank_line hcode hline)
  · intro x hx
    rw [List.head?_map] at hx
    obtain ⟨y, hy, rfl⟩ := Option.map_eq_some_iff.mp hx
    obtain ⟨⟨c, hc, hcblank⟩, hshallow⟩ := hbelow y hy
    rintro (hall | hdeep)
    · exact hcblank ((Text.isBlank_ofList y).mp hall c hc)
    · rw [hbase, indentWidth, String.toList_ofList] at hdeep
      omega

end FillerTest

end Lexical

end CodeAudit
