import CodeAudit.Proofs.Lexical.PythonBlocks
import CodeAudit.Proofs.Regex.Matching
import CodeAudit.Proofs.Rules.Advice

/-! Tests in Python that do nothing: which of them are reported as empty. The recognizer takes every header of a test; the
body is read on the masked lines, where a literal keeps its marks and its letters and has blanks for its text. So a literal
with something in it is not seen as a placeholder, and one such line keeps a test from being reported. -/
namespace CodeAudit.TestHygiene

section Recognizer

open Regex (Pattern Takes)

/-- One given character. -/
def oneChar (c : Char) : Pattern := .set (fun d => d == c) (32 * c.utf8Size)

/-- One character after the other. -/
def spelled (p : Pattern) (word : String) : Pattern := word.toList.foldl (fun p c => .cat p (oneChar c)) p

def blank : Pattern := .set ((Regex.ClassSet.test Text.isBlankChar 680).holds false) 680

def wordChar : Pattern := .set ((Regex.ClassSet.test Text.isWord 48500).holds false) 48500

/-- The beginning of a test, up to the parenthesis behind its name. -/
def testHead : Pattern :=
  let start := Pattern.cat (.cat .empty (.look .textStart)) (.rep 0 none true blank)
  let async := Pattern.rep 0 (some 1) true (.cat (spelled .empty "async") (.rep 1 none true blank))
  let name := Pattern.group 1 (.cat (spelled .empty "test") (.rep 0 none true wordChar))
  .cat (.cat (.cat (.cat (spelled (.cat start async) "def") (.rep 1 none true blank)) name) (.rep 0 none true blank))
    (oneChar '(')

set_option maxRecDepth 8000 in
theorem read?_pythonTest : Regex.read? "^\\s*(?:async\\s+)?def\\s+(test\\w*)\\s*\\(" = some (testHead, 1) := by
  have hchars : "^\\s*(?:async\\s+)?def\\s+(test\\w*)\\s*\\(".toList =
      ['^', '\\', 's', '*', '(', '?', ':', 'a', 's', 'y', 'n', 'c', '\\', 's', '+', ')', '?', 'd', 'e', 'f', '\\', 's', '+',
        '(', 't', 'e', 's', 't', '\\', 'w', '*', ')', '\\', 's', '*', '\\', '('] := rfl
  exact Regex.read?_of_alternatives 40 hchars (fun _ => rfl) (by decide)

theorem pythonTest_eq : pythonTest = ⟨Regex.Program.of testHead 1⟩ := by
  have hcost : ¬ Regex.maxCost < testHead.cost := by decide
  rw [pythonTest, Regex.ofValid, Regex.compile?, read?_pythonTest]
  dsimp only
  rw [if_neg hcost, Option.getD_some]

theorem takes_spelled {p : Pattern} {before taken : List Char} (h : Takes p before taken) (word : String) :
    Takes (spelled p word) before (taken ++ word.toList) := by
  unfold spelled
  generalize word.toList = cs
  induction cs generalizing p taken with
  | nil => simpa using h
  | cons c cs ih =>
    have hfirst : Takes (.cat p (oneChar c)) before (taken ++ [c]) := h.cat (Regex.takes_set (by simp) _)
    simpa using ih hfirst

/-- The recognizer takes the beginning of every header. -/
theorem takes_testHead (h : Lexical.TestHeader) : Takes testHead [] h.head := by
  have hblank {gap : List Char} (hgap : Lexical.IsGap gap) :
      ∀ c ∈ gap, (Regex.ClassSet.test Text.isBlankChar 680).holds false c := fun c hc => (hgap c hc).1
  have hstart : Takes (.cat (.cat .empty (.look .textStart)) (.rep 0 none true blank)) [] h.indent :=
    ((Regex.takes_empty []).cat Regex.takes_textStart).cat (Regex.takes_many (hblank h.indent_isGap) _)
  have hasync (before : List Char) : Takes (.rep 0 (some 1) true (.cat (spelled .empty "async") (.rep 1 none true blank)))
      before (h.async.elim [] ("async".toList ++ ·)) := by
    cases hbetween : h.async with
    | none => exact Regex.takes_never _
    | some between =>
      obtain ⟨hgap, hne⟩ := h.async_isGap between hbetween
      exact ((takes_spelled (Regex.takes_empty before) "async").cat (Regex.takes_some (hblank hgap) hne _)).once
  have hname (before : List Char) : Takes (.group 1 (.cat (spelled .empty "test") (.rep 0 none true wordChar))) before
      ("test".toList ++ h.name) :=
    ((takes_spelled (Regex.takes_empty before) "test").cat (Regex.takes_many h.name_isWord _)).group
  have hgap (before : List Char) : Takes (.rep 1 none true blank) before h.gap :=
    Regex.takes_some (hblank h.gap_isGap.1) h.gap_isGap.2 before
  have hspace (before : List Char) : Takes (.rep 0 none true blank) before h.space :=
    Regex.takes_many (hblank h.space_isGap) before
  have hopen (before : List Char) : Takes (oneChar '(') before ['('] := Regex.takes_set (by simp) before
  have hdef := takes_spelled (hstart.cat (hasync _)) "def"
  exact (((hdef.cat (hgap _)).cat (hname _)).cat (hspace _)).cat (hopen _)

theorem isMatch_pythonTest (h : Lexical.TestHeader) {s : String} {rest : List Char} (hs : s.toList = h.head ++ rest) :
    pythonTest.isMatch s := by
  rw [pythonTest_eq]
  exact (takes_testHead h).isMatch hs

end Recognizer

section Body

open Lexical (Placeholder FillerTest InBody bracketBalance indentWidth)

/-- Of the placeholders only a literal with something in it is not seen as one. -/
theorem isPlaceholder_masked_iff {p : Placeholder} (hp : p.IsCode) :
    isPlaceholder (String.ofList p.masked) ↔ ∀ l, p = .literal l → l.Bare := by
  cases p with
  | nothing => exact hp.elim
  | pass => exact iff_of_true (by decide) fun l h => nomatch h
  | ellipsis => exact iff_of_true (by decide) fun l h => nomatch h
  | literal l =>
    obtain ⟨front, hmark⟩ := l.mark_concat
    have hword (word : String) (hword : ∀ c ∈ word.toList, c ≠ '"' ∧ c ≠ '\'') : String.ofList l.masked ≠ word := by
      rintro rfl
      have hlast : l.quote ∈ (String.ofList l.masked).toList := by simp [Lexical.Literal.masked, hmark]
      obtain ⟨hdouble, hsingle⟩ := hword _ hlast
      exact l.quote_eq.elim hdouble hsingle
    have hmarks : ∀ c ∈ l.mark, c = '"' ∨ c = '\'' := by
      have hquote := l.quote_eq
      unfold Lexical.Literal.mark
      split <;> simp [hquote]
    have hletters : (∀ c ∈ l.letters, c = '"' ∨ c = '\'') ↔ l.letters = [] := by
      have hnone : ∀ c ∈ "rRbBuUfF".toList, ¬ (c = '"' ∨ c = '\'') := List.all_iff_forall_prop.mp (by decide)
      refine ⟨fun hall => List.eq_nil_iff_forall_not_mem.mpr fun c hc => ?_, fun hnil => by simp [hnil]⟩
      exact hnone c (l.letters_plain c hc) (hall c hc)
    have htext : (∀ c ∈ List.replicate l.text.length ' ', c = '"' ∨ c = '\'') ↔ l.text = [] := by
      cases l.text <;> simp
    have hbare : (∀ l', Placeholder.literal l = .literal l' → l'.Bare) ↔ l.Bare :=
      ⟨fun h => h l rfl, fun h l' hl' => Placeholder.literal.inj hl' ▸ h⟩
    rw [hbare, Placeholder.masked, isPlaceholder, beq_eq_false_iff_ne.mpr (hword "pass" (List.all_iff_forall_prop.mp (by decide))),
      beq_eq_false_iff_ne.mpr (hword "..." (List.all_iff_forall_prop.mp (by decide))), Bool.false_or, Bool.false_or, List.all_eq_true,
      String.toList_ofList]
    simp only [Bool.or_eq_true, beq_iff_eq, Lexical.Literal.masked, List.forall_mem_append, hletters, htext]
    rw [and_iff_left hmarks, and_iff_left hmarks, Lexical.Literal.Bare]

/-- Behind the colon of a header stands nothing. -/
theorem isPlaceholder_afterColon {h : Lexical.TestHeader} {y : List Char} (hy : Text.IsLineOf h.masked y) :
    isPlaceholder (Text.trim (afterColon (String.ofList y))) := by
  obtain ⟨behind, rfl, hbehind⟩ := Lexical.TestHeader.exists_line hy
  have hcolon : ':' ∉ (String.ofList behind).toList := by
    rw [String.toList_ofList]
    exact fun hc => (by decide : ¬ Text.isBlankChar ':') (hbehind _ hc).1
  have hline : String.ofList (h.head ++ h.code ++ ':' :: behind) =
      String.ofList (h.head ++ h.code) ++ ":" ++ String.ofList behind := by
    apply String.toList_injective
    simp
  rw [hline, afterColon, Text.cutLast?_append rfl hcolon]
  dsimp only
  rw [Text.trim, String.toList_ofList, Text.trimChars_blank fun c hc => (hbehind c hc).1]
  decide

variable {masked xs ys : List String} {header : String} {i : Nat}

/-- A body is empty when all of its lines stand for nothing; without a line in it so does what is behind the colon. -/
theorem isEmptyBody_iff (hlines : masked.drop i = header :: (xs ++ ys)) (hclosed : bracketBalance header ≤ 0)
    (hinside : ∀ x ∈ xs, InBody (indentWidth header) x) (hends : ∀ y ∈ ys.head?, ¬ InBody (indentWidth header) y)
    (hcolon : isPlaceholder (Text.trim (afterColon header))) :
    isEmptyBody masked i header ↔ ∀ x ∈ xs, ¬ Text.isBlank x → isPlaceholder (Text.trim x) := by
  have hblock {x : String} (hx : ¬ Text.isBlank x) := Lexical.mem_block_iff hlines hclosed hinside hends hx
  unfold isEmptyBody
  dsimp only
  split
  · rename_i hend
    rw [hend, Nat.sub_self, List.take_zero] at hblock
    refine iff_of_true hcolon fun x hx hblank => ?_
    exact nomatch (hblock hblank).mpr hx
  · rw [List.all_eq_true]
    simp only [List.mem_filter, Bool.not_eq_eq_eq_not, Bool.not_true, Bool.not_eq_true]
    constructor
    · intro hall x hx hblank
      exact hall x ⟨(hblock (by simp [hblank])).mpr hx, hblank⟩
    · rintro hall x ⟨hx, hblank⟩
      exact hall x ((hblock (by simp [hblank])).mp hx) hblank

/-- The header is recognized where it stands, and its body is seen to be empty unless something is in a literal. -/
theorem exists_header (t : FillerTest) {masked : List String}
    (hmasked : masked = Text.lines (Lexical.mask .python (String.ofList t.content))) :
    ∃ header, masked[t.place]? = some header ∧ pythonTest.isMatch header ∧
      (isEmptyBody masked t.place header ↔ ∀ l ∈ t.body, ∀ lit, l.code = .literal lit → lit.Bare) := by
  obtain ⟨h, xs, ys, hlines, hheader, hinside, hends, hfrom, hto⟩ := t.exists_block
  rw [← hmasked] at hlines
  refine ⟨String.ofList h, Lexical.getElem?_of_drop hlines, ?_, ?_⟩
  · obtain ⟨behind, rfl, -⟩ := Lexical.TestHeader.exists_line hheader
    exact isMatch_pythonTest t.header (by rw [String.toList_ofList, List.append_assoc])
  rw [isEmptyBody_iff hlines (Lexical.TestHeader.balance_line hheader) hinside hends (isPlaceholder_afterColon hheader),
    List.forall_mem_map]
  constructor
  · intro hall l hl lit hlit
    have hcode : l.code.IsCode := by
      rw [hlit]
      trivial
    obtain ⟨x, hx, hline⟩ := hto l hl hcode
    obtain ⟨htrim, hblank, -⟩ := Lexical.FillerLine.code_line hcode hline
    have hplaceholder := hall x hx hblank
    rw [htrim, isPlaceholder_masked_iff hcode] at hplaceholder
    exact hplaceholder lit hlit
  · intro hall x hx hblank
    obtain ⟨l, hl, hline⟩ := hfrom x hx
    have hcode : l.code.IsCode := by
      by_contra hcode
      exact hblank (Lexical.FillerLine.isBlank_line hcode hline)
    rw [(Lexical.FillerLine.code_line hcode hline).1, isPlaceholder_masked_iff hcode]
    exact hall l hl

end Body

section Reports

variable {u : TextUnit} {v : Violation} {lines : List LinePair} {name : String} {i number : Nat}

/-- The report on an empty test. -/
def emptyReport (u : TextUnit) (number : Nat) (name : String) : Violation :=
  emptyTest.violation u.path number 1 s!"Test '{name}' has an empty body" (some "Implement the test or remove it")

/-- The rules that look for empty tests on one line report them in other words. -/
theorem emptyReport_notMem_checkAll : emptyReport u number name ∉ LineRule.checkAll lineRules u lines := by
  intro h
  obtain ⟨r, hr, line, column, hreport⟩ := LineRule.exists_of_mem_checkAll h
  have hwords : ∀ r ∈ lineRules, ¬ Text.startsWith r.message "Test '" := by decide
  have hmessage : s!"Test '{name}' has an empty body" = r.message := congrArg Violation.message hreport
  apply hwords r hr
  rw [← hmessage]
  exact Text.startsWith_iff.mpr ⟨name ++ "' has an empty body", String.append_assoc⟩

theorem exists_emptyReport_iff : (∃ name, emptyReport u (i + 1) name ∈ emptyPythonTests u lines) ↔
    ∃ header, (lines.map (·.masked))[i]? = some header ∧ pythonTest.isMatch header ∧
      isEmptyBody (lines.map (·.masked)) i header := by
  unfold emptyPythonTests
  dsimp only
  generalize lines.map (·.masked) = masked
  constructor
  · rintro ⟨name, hv⟩
    obtain ⟨⟨header, j⟩, hmem, hreport⟩ := List.mem_filterMap.mp hv
    dsimp only at hreport
    split at hreport
    · cases hreport
    · rename_i m hfind
      obtain ⟨hempty, hviolation⟩ := Option.ite_none_right_eq_some.mp hreport
      have hline := congrArg (fun v => v.location.startLine) (Option.some.inj hviolation)
      obtain rfl : j = i := Nat.succ.inj hline
      exact ⟨header, List.mk_mem_zipIdx_iff_getElem?.mp hmem, by rw [Regex.isMatch, hfind]; rfl, hempty⟩
  · rintro ⟨header, hget, hmatch, hempty⟩
    obtain ⟨m, hfind⟩ := Option.isSome_iff_exists.mp hmatch
    refine ⟨(m.group? 1).getD "test", List.mem_filterMap.mpr ⟨(header, i), List.mk_mem_zipIdx_iff_getElem?.mpr hget, ?_⟩⟩
    dsimp only
    rw [hfind]
    dsimp only
    rw [if_pos hempty]
    rfl

theorem exists_of_mem_emptyPythonTests (hv : v ∈ emptyPythonTests u lines) : ∃ i name, v = emptyReport u (i + 1) name := by
  obtain ⟨⟨header, i⟩, -, hreport⟩ := List.mem_filterMap.mp hv
  dsimp only at hreport
  split at hreport
  · cases hreport
  · obtain ⟨-, hviolation⟩ := Option.ite_none_right_eq_some.mp hreport
    exact ⟨i, _, (Option.some.inj hviolation).symm⟩

/-- What is reported for a line of a test file. -/
theorem exists_report_iff (hu : u.isTest) (hl : u.language = .python) (content : String) :
    (∃ name, emptyReport u (i + 1) name ∈ check u content) ↔
      ∃ header, (Text.lines (Lexical.mask .python content))[i]? = some header ∧ pythonTest.isMatch header ∧
        isEmptyBody (Text.lines (Lexical.mask .python content)) i header := by
  rw [← hl, ← LinePair.map_masked_ofContent, ← exists_emptyReport_iff]
  refine exists_congr fun name => ?_
  rw [mem_check_iff hu, or_iff_right emptyReport_notMem_checkAll, and_iff_right hl, or_iff_left]
  intro hassertions
  have hrule : emptyTest.id = noAssertions.id := (rule_of_mem_passes u _).2.2 _ hassertions
  exact absurd hrule (by decide)

/-- The rule that looks for a call with an empty function. It is meant for scripts and applies to all languages. -/
def emptyCall : LineRule := lineRules[2]

theorem emptyCall_only :
    (lineRules.filter fun r => r.appliesTo .python && r.descriptor.id == emptyTest.id) = [emptyCall] := rfl

/-- On a line of a Python test file empty tests are reported for a body that does nothing, and for such a call. -/
theorem exists_emptyTest_iff {content : String} {line : LinePair} (hu : u.isTest) (hl : u.language = .python)
    (hline : (LinePair.ofContent content u.language)[i]? = some line) :
    (∃ v ∈ check u content, v.rule = emptyTest.id ∧ v.location.startLine = i + 1) ↔
      (∃ name, emptyReport u (i + 1) name ∈ check u content) ∨ ∃ column, emptyCall.Matches line column := by
  have hcall : (∃ v ∈ LineRule.checkAll lineRules u (LinePair.ofContent content u.language),
      v.rule = emptyTest.id ∧ v.location.startLine = i + 1) ↔ ∃ column, emptyCall.Matches line column := by
    have hrules : ∀ r, (r ∈ lineRules ∧ r.appliesTo u.language ∧ r.descriptor.id = emptyTest.id) ↔ r = emptyCall := by
      intro r
      have hsingle : r = emptyCall ↔ r ∈ [emptyCall] := List.mem_singleton.symm
      rw [hsingle, ← emptyCall_only, List.mem_filter, hl, Bool.and_eq_true, beq_iff_eq]
    rw [LineRule.exists_mem_checkAll_iff hline]
    constructor
    · rintro ⟨r, hr, happlies, hid, hmatches⟩
      obtain rfl := (hrules r).mp ⟨hr, happlies, hid⟩
      exact hmatches
    · intro hmatches
      obtain ⟨hr, happlies, hid⟩ := (hrules emptyCall).mpr rfl
      exact ⟨emptyCall, hr, happlies, hid, hmatches⟩
  rw [← hcall]
  constructor
  · rintro ⟨v, hv, hrule, hstart⟩
    rcases (mem_check_iff hu).mp hv with hv' | ⟨-, hv'⟩ | hv'
    · exact .inr ⟨v, hv', hrule, hstart⟩
    · obtain ⟨j, name, rfl⟩ := exists_of_mem_emptyPythonTests hv'
      obtain rfl : j = i := Nat.succ.inj hstart
      exact .inl ⟨name, hv⟩
    · have hother : v.rule = noAssertions.id := (rule_of_mem_passes u _).2.2 v hv'
      exact absurd (hrule.symm.trans hother) (by decide)
  · rintro (⟨name, hv⟩ | ⟨v, hv, hrule, hstart⟩)
    · exact ⟨_, hv, rfl, rfl⟩
    · exact ⟨v, (mem_check_iff hu).mpr (.inl hv), hrule, hstart⟩

/-- A test in a test file whose body does nothing is reported as empty if and only if every literal in the body is bare:
without text and without letters in front. No other report of an empty test lies on its line, unless the header itself
looks like a call with an empty function. -/
theorem emptyTest_reported_iff (hu : u.isTest) (hl : u.language = .python) (t : Lexical.FillerTest) :
    ((∃ name, emptyReport u (t.place + 1) name ∈ check u (String.ofList t.content)) ↔
      ∀ l ∈ t.body, ∀ lit, l.code = .literal lit → lit.Bare) ∧
    ∃ line, (LinePair.ofContent (String.ofList t.content) u.language)[t.place]? = some line ∧
      ((∃ v ∈ check u (String.ofList t.content), v.rule = emptyTest.id ∧ v.location.startLine = t.place + 1) ↔
        (∀ l ∈ t.body, ∀ lit, l.code = .literal lit → lit.Bare) ∨ ∃ column, emptyCall.Matches line column) := by
  obtain ⟨header, hget, hmatch, hempty⟩ := exists_header t rfl
  have hreport : (∃ name, emptyReport u (t.place + 1) name ∈ check u (String.ofList t.content)) ↔
      ∀ l ∈ t.body, ∀ lit, l.code = .literal lit → lit.Bare := by
    rw [exists_report_iff hu hl, ← hempty]
    constructor
    · rintro ⟨other, hother, -, hbody⟩
      rw [hget] at hother
      exact Option.some.inj hother ▸ hbody
    · exact fun hbody => ⟨header, hget, hmatch, hbody⟩
  rw [← hl, ← LinePair.map_masked_ofContent, List.getElem?_map] at hget
  obtain ⟨line, hline, -⟩ := Option.map_eq_some_iff.mp hget
  exact ⟨hreport, line, hline, by rw [exists_emptyTest_iff hu hl hline, hreport]⟩

def cartTests : TextUnit := ⟨"tests/test_cart.py", .python, none⟩

theorem isTest_cartTests : cartTests.isTest := by decide +kernel

def noTail : Lexical.LineTail := ⟨[], none, by simp [Lexical.IsGap], by simp⟩

/-- The header `def test_add():`. -/
def addHeader : Lexical.TestHeader where
  indent := []
  async := none
  gap := [' ']
  name := "_add".toList
  space := []
  signature := [')']
  code := [')']
  tail := noTail
  indent_isGap := by simp [Lexical.IsGap]
  async_isGap := by simp
  gap_isGap := ⟨fun c hc => by rw [List.mem_singleton.mp hc]; decide, by simp⟩
  name_isWord := List.all_eq_true.mp (by decide)
  space_isGap := by simp [Lexical.IsGap]
  reads := .char (by decide) .nil
  closed := by decide

def indented (code : Lexical.Placeholder) : Lexical.FillerLine :=
  ⟨List.replicate 4 ' ', code, noTail, fun c hc => by rw [List.eq_of_mem_replicate hc]; decide⟩

theorem le_indent_indented (code : Lexical.Placeholder) : 4 ≤ Lexical.indentChars (indented code).source := by
  simp only [Lexical.FillerLine.source, indented, List.replicate, List.cons_append, Lexical.indentChars]
  omega

def docstring (text : List Char) (h : Lexical.Within ['"', '"', '"'] text) : Lexical.Literal :=
  ⟨[], '"', true, text, by simp, .inl rfl, h⟩

/-- A test with a docstring, between other lines. -/
def addTest (text : List Char) (h : Lexical.Within ['"', '"', '"'] text) : Lexical.FillerTest where
  above := "import cart".toList ++ ['\n']
  header := addHeader
  body := [indented (.literal (docstring text h)), indented .pass]
  below := '\n' :: ([] ++ 'x' :: " = 1\n".toList)
  starts := .inr ⟨_, rfl⟩
  inCode := Lexical.endsInCode_line (List.all_iff_forall_prop.mp (by decide))
  deeper := by
    have hheader : Lexical.indentChars addHeader.source = 0 := by decide
    have hdoc := le_indent_indented (.literal (docstring text h))
    have hpass := le_indent_indented .pass
    simp only [List.mem_cons, List.not_mem_nil, or_false, forall_eq_or_imp, forall_eq]
    omega
  ends := .line (by simp [Lexical.IsGap]) (by decide) (by decide) (Nat.zero_le _)

/-- With a docstring that says nothing the test is reported. -/
theorem undocumented_is_reported : cartTests.isTest ∧ cartTests.language = .python ∧
    String.ofList (addTest [] .nil).content = "import cart\ndef test_add():\n    \"\"\"\"\"\"\n    pass\nx = 1\n" ∧
      ∃ name, emptyReport cartTests ((addTest [] .nil).place + 1) name ∈
        check cartTests (String.ofList (addTest [] .nil).content) := by
  have hcontent : String.ofList (addTest [] .nil).content =
      "import cart\ndef test_add():\n    \"\"\"\"\"\"\n    pass\nx = 1\n" := by
    decide
  have hbare : ∀ l ∈ (addTest [] .nil).body, ∀ lit, l.code = .literal lit → lit.Bare := by
    intro l hl lit hlit
    rcases List.mem_cons.mp hl with rfl | hl
    · cases hlit
      exact ⟨rfl, rfl⟩
    · rw [List.mem_singleton.mp hl] at hlit
      cases hlit
  exact ⟨isTest_cartTests, rfl, hcontent, (emptyTest_reported_iff isTest_cartTests rfl (addTest [] .nil)).1.mpr hbare⟩

theorem within_purpose : Lexical.Within ['"', '"', '"'] "Adds two items.".toList :=
  Lexical.within_of_plain (List.all_iff_forall_prop.mp (by decide))

/-- The header `def test_add():` has no quotes, and a call with an empty function begins with its title. -/
theorem not_matches_addHeader (column : Nat) : ¬ emptyCall.Matches ⟨"def test_add():", "def test_add():"⟩ column := by
  apply LineRule.column?_eq_none_iff.mp
  refine LineRule.column?_eq_none_of_not_isMatch (List.forall_mem_singleton.mpr ?_)
  exact Regex.not_isMatch_of_not_supplied (by decide +kernel)

/-- With a docstring that says what is tested nothing on its line is reported as an empty test. -/
theorem documented_is_unreported :
    String.ofList (addTest _ within_purpose).content =
        "import cart\ndef test_add():\n    \"\"\"Adds two items.\"\"\"\n    pass\nx = 1\n" ∧
      cartTests.isTest ∧ (addTest _ within_purpose).place + 1 = 2 ∧
      ∀ v ∈ check cartTests (String.ofList (addTest _ within_purpose).content),
        v.rule = emptyTest.id → v.location.startLine ≠ (addTest _ within_purpose).place + 1 := by
  have hcontent : String.ofList (addTest _ within_purpose).content =
      "import cart\ndef test_add():\n    \"\"\"Adds two items.\"\"\"\n    pass\nx = 1\n" := by decide
  have hlines : Text.lines (Lexical.mask .python (String.ofList (addTest _ within_purpose).content)) =
      ["import cart", "def test_add():", "    \"\"\"               \"\"\"", "    pass", "x = 1"] := by
    rw [hcontent]
    decide +kernel
  have hline : (LinePair.ofContent (String.ofList (addTest _ within_purpose).content) cartTests.language)[1]? =
      some ⟨"def test_add():", "def test_add():"⟩ := by
    rw [hcontent]
    decide +kernel
  refine ⟨hcontent, isTest_cartTests, by decide, fun v hv hrule hstart => ?_⟩
  rcases (exists_emptyTest_iff isTest_cartTests rfl hline).mp ⟨v, hv, hrule, hstart⟩ with hname | ⟨column, hcolumn⟩
  · obtain ⟨header, hget, -, hempty⟩ := (exists_report_iff isTest_cartTests rfl _).mp hname
    rw [hlines] at hget hempty
    cases hget
    revert hempty
    decide
  · exact not_matches_addHeader column hcolumn

end Reports

end CodeAudit.TestHygiene
