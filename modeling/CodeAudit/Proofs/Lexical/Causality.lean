import CodeAudit.Proofs.Lexical.Grid

/-! Masking is causal. What is written for a character is settled by what stands before it and by the two
characters behind it, and a line feed settles all that stands before it. So what follows further down never
changes how a text is masked. -/
namespace CodeAudit

open List (Forall₂)

namespace Lexical

/-- No line feed stands for triple quotes. -/
def Mode.Plain : Mode → Prop
  | .tripleQuoted q => q ≠ '\n'
  | _ => True

/-- The head of a text settles what is written first: whatever follows it, the same characters are written for the
same part of the head, and masking goes on behind that part in the same mode. -/
def Settles (s : Style) (m : Mode) (head : List Char) : Prop :=
  ∃ (written : List Char) (next : Mode), written ≠ [] ∧ written.length ≤ head.length ∧ next.Plain ∧
    ∀ rest, maskFrom s m (head ++ rest) = written ++ maskFrom s next (head.drop written.length ++ rest)

variable {s : Style} {m : Mode} {c d e w x y : Char}

theorem settles_of_one (next : Mode) (hnext : next.Plain)
    (h : ∀ rest, maskFrom s m (c :: d :: e :: rest) = w :: maskFrom s next (d :: e :: rest)) : Settles s m [c, d, e] :=
  ⟨[w], next, List.cons_ne_nil w [], by simp, hnext, h⟩

theorem settles_of_two (next : Mode) (hnext : next.Plain)
    (h : ∀ rest, maskFrom s m (c :: d :: e :: rest) = w :: x :: maskFrom s next (e :: rest)) :
    Settles s m [c, d, e] :=
  ⟨[w, x], next, List.cons_ne_nil w [x], by simp, hnext, h⟩

theorem settles_of_three (next : Mode) (hnext : next.Plain)
    (h : ∀ rest, maskFrom s m (c :: d :: e :: rest) = w :: x :: y :: maskFrom s next rest) : Settles s m [c, d, e] :=
  ⟨[w, x, y], next, List.cons_ne_nil w [x, y], by simp, hnext, h⟩

/-- Masking looks at three characters at a time. -/
theorem settles_three (s : Style) (hm : m.Plain) (c d e : Char) : Settles s m [c, d, e] := by
  cases m with
  | code =>
    by_cases hhash : s.hashComments && c == '#'
    · apply settles_of_one .lineComment trivial
      intro rest
      rw [maskFrom, if_pos hhash]
    by_cases hline : s.slashComments && c == '/' && d == '/'
    · apply settles_of_one .lineComment trivial
      intro rest
      rw [maskFrom, if_neg hhash, if_pos hline]
    by_cases hblock : s.slashComments && c == '/' && d == '*'
    · apply settles_of_two .blockComment trivial
      intro rest
      rw [maskFrom, if_neg hhash, if_neg hline, if_pos hblock]
    by_cases htriple : s.tripleQuotes && (c == '"' || c == '\'') && d == c && some e == some c
    · have hplain : (Mode.tripleQuoted c).Plain := by
        rintro rfl
        simp at htriple
      apply settles_of_three _ hplain
      intro rest
      rw [maskFrom, if_neg hhash, if_neg hline, if_neg hblock, List.head?_cons, if_pos htriple]
    by_cases hquote : s.quotes.contains c
    · apply settles_of_one (.quoted c) trivial
      intro rest
      rw [maskFrom, if_neg hhash, if_neg hline, if_neg hblock, List.head?_cons, if_neg htriple, if_pos hquote]
    · apply settles_of_one .code trivial
      intro rest
      rw [maskFrom, if_neg hhash, if_neg hline, if_neg hblock, List.head?_cons, if_neg htriple, if_neg hquote]
  | lineComment =>
    by_cases hfeed : c = '\n'
    · apply settles_of_one .code trivial
      intro rest
      rw [maskFrom, if_pos hfeed]
    · apply settles_of_one .lineComment trivial
      intro rest
      rw [maskFrom, if_neg hfeed]
  | blockComment =>
    by_cases hend : c == '*' && d == '/'
    · apply settles_of_two .code trivial
      intro rest
      rw [maskFrom, if_pos hend]
    · apply settles_of_one .blockComment trivial
      intro rest
      rw [maskFrom, if_neg hend]
  | tripleQuoted q =>
    by_cases hescape : c == '\\'
    · apply settles_of_two _ hm
      intro rest
      rw [maskFrom, if_pos hescape]
    by_cases hend : c == q && d == q && some e == some q
    · apply settles_of_three .code trivial
      intro rest
      rw [maskFrom, if_neg hescape, List.head?_cons, if_pos hend]
    · apply settles_of_one _ hm
      intro rest
      rw [maskFrom, if_neg hescape, List.head?_cons, if_neg hend]
  | quoted q =>
    by_cases hescape : c == '\\' && !(q == backquote && s.rawBackquote)
    · apply settles_of_two (.quoted q) trivial
      intro rest
      rw [maskFrom, if_pos hescape]
    by_cases hend : c == q
    · apply settles_of_one .code trivial
      intro rest
      rw [maskFrom, if_neg hescape, if_pos hend]
    by_cases hfeed : c == '\n' && q != backquote
    · apply settles_of_one .code trivial
      intro rest
      rw [maskFrom, if_neg hescape, if_neg hend, if_pos hfeed]
    · apply settles_of_one (.quoted q) trivial
      intro rest
      rw [maskFrom, if_neg hescape, if_neg hend, if_neg hfeed]

/-- The mode behind a line feed. -/
def Mode.nextLine (s : Style) : Mode → Mode
  | .code => if s.quotes.contains '\n' then .quoted '\n' else .code
  | .lineComment => .code
  | .blockComment => .blockComment
  | .quoted q => if q = backquote then .quoted q else .code
  | .tripleQuoted q => .tripleQuoted q

theorem maskFrom_feed (s : Style) (hm : m.Plain) (rest : List Char) :
    maskFrom s m ('\n' :: rest) = '\n' :: maskFrom s (m.nextLine s) rest := by
  cases m with
  | code =>
    rcases rest with _ | ⟨d, _ | ⟨e, rest⟩⟩ <;> by_cases hq : '\n' ∈ s.quotes <;> simp [maskFrom, Mode.nextLine, hq]
  | lineComment => simp [maskFrom, Mode.nextLine]
  | blockComment =>
    cases rest <;> simp [maskFrom, Mode.nextLine, blankOf]
  | tripleQuoted q =>
    have hq : ¬ '\n' = q := Ne.symm hm
    rcases rest with _ | ⟨d, _ | ⟨e, rest⟩⟩ <;> simp [maskFrom, Mode.nextLine, blankOf, hq]
  | quoted q =>
    have hbackquote : ¬ '\n' = backquote := by decide
    cases rest <;> by_cases hq : q = backquote <;> simp [maskFrom, Mode.nextLine, blankOf, hq, hbackquote]

theorem Mode.plain_code : Mode.code.Plain := trivial

theorem Mode.plain_quoted (q : Char) : (Mode.quoted q).Plain := trivial

theorem Mode.Plain.nextLine (hm : m.Plain) (s : Style) : (m.nextLine s).Plain := by
  cases m with
  | code =>
    simp only [Mode.nextLine]
    split <;> trivial
  | quoted q =>
    simp only [Mode.nextLine]
    split <;> trivial
  | lineComment => trivial
  | blockComment => trivial
  | tripleQuoted q => exact hm

/-- What is written for a character right before a line feed does not depend on what follows the line feed. -/
theorem maskFrom_before_feed (s : Style) (hm : m.Plain) (c : Char) :
    ∃ (w : Char) (next : Mode), next.Plain ∧
      ∀ rest, maskFrom s m (c :: '\n' :: rest) = w :: '\n' :: maskFrom s next rest := by
  by_cases hc : c = '\n'
  · subst hc
    refine ⟨'\n', (m.nextLine s).nextLine s, (hm.nextLine s).nextLine s, fun rest => ?_⟩
    rw [maskFrom_feed s hm, maskFrom_feed s (hm.nextLine s)]
  have hc' : ¬ '\n' = c := Ne.symm hc
  cases m with
  | code =>
    by_cases hhash : s.hashComments = true ∧ c = '#'
    · refine ⟨blankOf c, .code, trivial, fun rest => ?_⟩
      cases rest <;> simp [maskFrom, hhash]
    by_cases hquote : c ∈ s.quotes
    · refine ⟨c, (Mode.quoted c).nextLine s, (Mode.plain_quoted c).nextLine s, fun rest => ?_⟩
      rw [← maskFrom_feed s (Mode.plain_quoted c)]
      cases rest <;> simp [maskFrom, hhash, hquote, hc']
    · refine ⟨c, Mode.code.nextLine s, Mode.plain_code.nextLine s, fun rest => ?_⟩
      rw [← maskFrom_feed s Mode.plain_code]
      cases rest <;> simp [maskFrom, hhash, hquote, hc']
  | lineComment =>
    refine ⟨blankOf c, .code, trivial, fun rest => ?_⟩
    simp [maskFrom, hc]
  | blockComment =>
    refine ⟨blankOf c, .blockComment, trivial, fun rest => ?_⟩
    cases rest <;> simp [maskFrom, blankOf]
  | tripleQuoted q =>
    have hq : ¬ '\n' = q := Ne.symm hm
    refine ⟨blankOf c, (Mode.tripleQuoted q).nextLine s, hm.nextLine s, fun rest => ?_⟩
    by_cases hescape : c = '\\'
    · cases rest <;> simp [maskFrom, hescape, blankOf, Mode.nextLine]
    · rw [← maskFrom_feed s hm]
      cases rest <;> simp [maskFrom, hescape, hq]
  | quoted q =>
    by_cases hescape : c == '\\' && !(q == backquote && s.rawBackquote)
    · refine ⟨blankOf c, .quoted q, trivial, fun rest => ?_⟩
      rw [maskFrom, if_pos hescape]
      rfl
    by_cases hend : c == q
    · refine ⟨c, Mode.code.nextLine s, Mode.plain_code.nextLine s, fun rest => ?_⟩
      rw [maskFrom, if_neg hescape, if_pos hend, maskFrom_feed s Mode.plain_code]
    · refine ⟨blankOf c, (Mode.quoted q).nextLine s, (Mode.plain_quoted q).nextLine s, fun rest => ?_⟩
      have hfeed : ¬ (c == '\n' && q != backquote) = true := by simp [hc]
      rw [maskFrom, if_neg hescape, if_neg hend, if_neg hfeed, maskFrom_feed s (Mode.plain_quoted q)]

/-- From where one step ends the next one goes on, so that all of a head is settled but for two characters. -/
theorem exists_settled (s : Style) (hm : m.Plain) (head : List Char) :
    ∃ (written : List Char) (next : Mode), next.Plain ∧ written.length ≤ head.length ∧
      head.length ≤ written.length + 2 ∧
      ∀ rest, maskFrom s m (head ++ rest) = written ++ maskFrom s next (head.drop written.length ++ rest) := by
  induction hn : head.length using Nat.strongRecOn generalizing m head with
  | ind n ih =>
    subst hn
    match head with
    | [] | [_] | [_, _] => exact ⟨[], m, hm, by simp, by simp, fun rest => rfl⟩
    | c :: d :: e :: tail =>
      obtain ⟨first, m₁, hne, hle, hm₁, hfirst⟩ := settles_three s hm c d e
      have hpos : 0 < first.length := List.length_pos_iff.mpr hne
      have hdrop : ([c, d, e] ++ tail).drop first.length = [c, d, e].drop first.length ++ tail :=
        List.drop_append_of_le_length hle
      simp only [List.length_cons, List.length_nil] at hle
      -- what the step leaves of the head is shorter
      obtain ⟨more, next, hnext, hmore, hlong, hrun⟩ :=
        ih _ (by simp; omega) hm₁ ([c, d, e].drop first.length ++ tail) rfl
      simp only [List.length_append, List.length_drop, List.length_cons, List.length_nil] at hmore hlong
      refine ⟨first ++ more, next, hnext, by simp; omega, by simp; omega, fun rest => ?_⟩
      calc maskFrom s m ([c, d, e] ++ tail ++ rest)
          = first ++ maskFrom s m₁ ([c, d, e].drop first.length ++ (tail ++ rest)) := hfirst (tail ++ rest)
        _ = first ++ (more ++ maskFrom s next (([c, d, e] ++ tail).drop (first.length + more.length) ++ rest)) := by
          rw [← List.append_assoc, hrun, ← List.drop_drop, hdrop]
        _ = first ++ more ++ maskFrom s next (([c, d, e] ++ tail).drop (first ++ more).length ++ rest) := by
          rw [List.length_append, List.append_assoc]

/-- A line feed settles all of a text up to itself. -/
theorem exists_settled_feed (s : Style) (hm : m.Plain) (line : List Char) :
    ∃ (written : List Char) (next : Mode), next.Plain ∧
      ∀ rest, maskFrom s m (line ++ '\n' :: rest) = written ++ maskFrom s next rest := by
  obtain ⟨written, m₁, hm₁, hle, hlong, hrun⟩ := exists_settled s hm (line ++ ['\n'])
  simp only [List.length_append, List.length_singleton] at hle hlong
  have hsplit : ∀ rest, maskFrom s m (line ++ '\n' :: rest) =
      written ++ maskFrom s m₁ ((line ++ ['\n']).drop written.length ++ rest) := by
    intro rest
    rw [← hrun, List.append_assoc, List.singleton_append]
  rcases Nat.lt_or_ge line.length written.length with hall | hpart
  · rw [List.drop_of_length_le (by simp; omega)] at hsplit
    exact ⟨written, m₁, hm₁, hsplit⟩
  · rw [List.drop_append_of_le_length hpart] at hsplit
    -- nothing or one character is left before the line feed
    rcases hleft : line.drop written.length with _ | ⟨c, _ | ⟨d, more⟩⟩
    · rw [hleft] at hsplit
      refine ⟨written ++ ['\n'], m₁.nextLine s, hm₁.nextLine s, fun rest => ?_⟩
      rw [hsplit, List.append_assoc written]
      exact congrArg (written ++ ·) (maskFrom_feed s hm₁ rest)
    · rw [hleft] at hsplit
      obtain ⟨w, next, hnext, hbefore⟩ := maskFrom_before_feed s hm₁ c
      refine ⟨written ++ [w, '\n'], next, hnext, fun rest => ?_⟩
      rw [hsplit, List.append_assoc written]
      exact congrArg (written ++ ·) (hbefore rest)
    · have hlength := congrArg List.length hleft
      simp only [List.length_drop, List.length_cons] at hlength
      omega

/-- Two texts with a common head are masked alike but for the last two characters of the head. -/
theorem take_maskFrom (s : Style) (hm : m.Plain) {xs ys : List Char} {n : Nat} (h : xs.take n = ys.take n) :
    (maskFrom s m xs).take (n - 2) = (maskFrom s m ys).take (n - 2) := by
  obtain ⟨written, next, -, -, hlong, hrun⟩ := exists_settled s hm (xs.take n)
  rcases Nat.lt_or_ge xs.length n with hshort | hn
  · have hys : ys.length < n := by
      have hlength := congrArg List.length h
      rw [List.length_take, List.length_take] at hlength
      omega
    rw [List.take_of_length_le (Nat.le_of_lt hshort), List.take_of_length_le (Nat.le_of_lt hys)] at h
    rw [h]
  · rw [List.length_take_of_le hn] at hlong
    have hxs := hrun (xs.drop n)
    have hys := hrun (ys.drop n)
    rw [List.take_append_drop] at hxs
    rw [h, List.take_append_drop] at hys
    rw [hxs, hys, List.take_append_of_le_length (by omega), List.take_append_of_le_length (by omega)]

end Lexical

namespace Text

theorem length_splitChars (sep : Char) (cs : Chars) : (splitChars sep cs).length = cs.count sep + 1 := by
  induction cs with
  | nil => rfl
  | cons c rest ih =>
    rw [splitChars]
    by_cases hc : c = sep
    · rw [if_pos hc, List.length_cons, ih, hc, List.count_cons_self]
    · rw [if_neg hc, List.count_cons_of_ne hc, ← ih]
      cases hpieces : splitChars sep rest with
      | nil => exact absurd hpieces (splitChars_ne_nil sep rest)
      | cons piece pieces => rfl

theorem finishLines_append (ps : List Chars) {qs : List Chars} (hqs : qs ≠ []) :
    finishLines (ps ++ qs) = ps.map dropReturn ++ finishLines qs := by
  induction ps with
  | nil => rfl
  | cons p rest ih =>
    obtain ⟨q, more, hmore⟩ := List.exists_cons_of_ne_nil (List.append_ne_nil_of_right_ne_nil rest hqs)
    rw [List.cons_append, hmore, finishLines, ← hmore, ih, List.map_cons, List.cons_append]
    · exact List.cons_ne_nil q more

/-- The lines above a line feed do not depend on what stands below. -/
theorem take_lineChars_append (above below : Chars) :
    (lineChars (above ++ '\n' :: below)).take (above.count '\n' + 1) =
      (splitChars '\n' above).map dropReturn := by
  rw [lineChars, splitChars_append_sep, finishLines_append _ (splitChars_ne_nil '\n' below)]
  exact List.take_left' (by rw [List.length_map, length_splitChars])

end Text

namespace Lexical

theorem count_feed {cs ds : List Char} (h : Forall₂ CoveredBy cs ds) : ds.count '\n' = cs.count '\n' := by
  have hpieces := (Text.forall₂_splitChars (fun c d hcd => hcd.feed) h).length_eq
  rw [Text.length_splitChars, Text.length_splitChars] at hpieces
  omega

/-- The masked lines above a line feed are the same whatever stands below. -/
theorem exists_masked_lines (l : Language) (above : List Char) :
    ∃ masked : List (List Char), ∀ below : List Char,
      (Text.lineChars (maskChars l (above ++ '\n' :: below))).take (above.count '\n' + 1) = masked := by
  obtain ⟨written, next, -, hrun⟩ := exists_settled_feed (Style.of l) Mode.plain_code above
  -- the line feed itself is kept, at the end of what is settled
  have hcovered := coveredBy_maskFrom (Style.of l) .code (above ++ ['\n'])
  rw [hrun [], maskFrom, List.append_nil] at hcovered
  obtain ⟨lines, feed, rfl, hlines, hfeed⟩ := Text.forall₂_concat_left hcovered
  obtain rfl : feed = '\n' := hfeed.feed.mpr rfl
  refine ⟨(Text.splitChars '\n' lines).map Text.dropReturn, fun below => ?_⟩
  rw [maskChars, hrun below, List.append_assoc, List.singleton_append, ← count_feed hlines]
  exact Text.take_lineChars_append lines (maskFrom (Style.of l) next below)

theorem exists_last_feed {cs : List Char} (h : '\n' ∈ cs) :
    ∃ above tail, cs = above ++ '\n' :: tail ∧ cs.count '\n' = above.count '\n' + 1 := by
  obtain ⟨tail, above, hcs, htail⟩ := List.eq_append_cons_of_mem (List.mem_reverse.mpr h)
  have hsplit : cs = above.reverse ++ '\n' :: tail.reverse := by
    rw [← List.reverse_reverse cs, hcs]
    simp
  refine ⟨above.reverse, tail.reverse, hsplit, ?_⟩
  rw [hsplit, List.count_append, List.count_cons_self, List.count_reverse (l := tail), List.count_eq_zero.mpr htail]

end Lexical

/-- Two texts that begin with the same characters are masked alike, but for the last two of these characters: what is
written for a character depends on nothing later than the two behind it. The lines that end within the common
characters are masked alike to their ends, so a change further down never shows in them. -/
theorem masking_is_causal (l : Language) {x y : String} {n : Nat} (h : x.toList.take n = y.toList.take n) :
    (Lexical.mask l x).toList.take (n - 2) = (Lexical.mask l y).toList.take (n - 2) ∧
      (Text.lines (Lexical.mask l x)).take ((x.toList.take n).count '\n') =
        (Text.lines (Lexical.mask l y)).take ((x.toList.take n).count '\n') := by
  simp only [Lexical.mask, Text.lines, String.toList_ofList, ← List.map_take]
  refine ⟨Lexical.take_maskFrom (Lexical.Style.of l) Lexical.Mode.plain_code h, congrArg (List.map String.ofList) ?_⟩
  by_cases hfeed : '\n' ∈ x.toList.take n
  · obtain ⟨above, tail, hsplit, hcount⟩ := Lexical.exists_last_feed hfeed
    obtain ⟨masked, hmasked⟩ := Lexical.exists_masked_lines l above
    have hx : x.toList = above ++ '\n' :: (tail ++ x.toList.drop n) := by
      rw [← List.cons_append, ← List.append_assoc, ← hsplit, List.take_append_drop]
    have hy : y.toList = above ++ '\n' :: (tail ++ y.toList.drop n) := by
      rw [← List.cons_append, ← List.append_assoc, ← hsplit, h, List.take_append_drop]
    rw [hcount, hx, hy, hmasked, hmasked]
  · rw [List.count_eq_zero.mpr hfeed, List.take_zero, List.take_zero]

/-- A docstring that ends. -/
def endedDocstring : String := "# a\n\"\"\"b\"\"\""

/-- A docstring that goes on, with the same first ten characters. -/
def openDocstring : String := "# a\n\"\"\"b\"\"c"

/-- Whether quotes end a docstring shows at the third of them: the two before it are masked differently. -/
theorem docstring_end_shows_at_third_quote :
    (endedDocstring.toList.take 10 = openDocstring.toList.take 10 ∧
      (Lexical.mask .python endedDocstring).toList.take 8 = (Lexical.mask .python openDocstring).toList.take 8 ∧
      (Text.lines (Lexical.mask .python endedDocstring)).take 1 =
        (Text.lines (Lexical.mask .python openDocstring)).take 1) ∧
      (Lexical.mask .python endedDocstring).toList.take 9 ≠ (Lexical.mask .python openDocstring).toList.take 9 := by
  have halike : endedDocstring.toList.take 10 = openDocstring.toList.take 10 := by decide
  have hended : Lexical.mask .python endedDocstring = "   \n\"\"\" \"\"\"" := by cbv
  have hopen : Lexical.mask .python openDocstring = "   \n\"\"\"    " := by cbv
  refine ⟨⟨halike, masking_is_causal .python halike⟩, ?_⟩
  rw [hended, hopen]
  decide

end CodeAudit
