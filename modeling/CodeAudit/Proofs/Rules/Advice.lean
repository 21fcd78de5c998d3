import CodeAudit.Proofs.Rules.OncePerLine
import CodeAudit.Proofs.Rules.Reports
import CodeAudit.Proofs.Rules.TestNames

/-! What becomes of a report on a missing test file when the file that it asks for is added. -/
namespace CodeAudit.TestHygiene

/-- One file is a test and it is named after another one. -/
def Tests (t u : TextUnit) : Prop := t.isTest ∧ testedSubject t.fileName = Text.asciiLowerCase (stem u.fileName)

instance (t u : TextUnit) : Decidable (Tests t u) := inferInstanceAs (Decidable (_ ∧ _))

/-- The report on a file without a test. -/
def report (u : TextUnit) : Violation :=
  missingTestFile.violation u.path 1 1 ("No test file found for " ++ u.path)
    (some ("Add a test file such as " ++ suggestedName u))

/-- A file that has to be tested, and none of the project tests it. -/
def IsMissing (units : List TextUnit) (u : TextUnit) : Prop :=
  (∃ content, u.content = some content ∧ isSignificant u content) ∧ ∀ t ∈ units, ¬ Tests t u

/-- The file that the report on `u` asks for, in the directory of `u`. -/
def advised (u : TextUnit) (content : Option String) : TextUnit :=
  ⟨Path.leading u.path ++ suggestedName u, u.language, content⟩

/-- Names for which the file that is asked for counts as their test. An ending of tests must not be part of the name where
the suggestion leaves it in place; and only some extensions go with the ending `Test`. -/
def IsFollowable (u : TextUnit) : Prop :=
  match u.language with
  | .typescript | .javascript | .python => ∀ tail ∈ testTails, ¬ Text.endsWith (stem u.fileName) tail
  | .java | .kotlin =>
    Text.endsWith (stem u.fileName) "_" ∨ lastPart u.fileName = "java" ∨ lastPart u.fileName = "kt"
  | _ => True

section Names

variable {lead s ext : String}

/-- A mark in the middle leaves what stands before it as it is. -/
theorem subject_test_iff (hs : '.' ∉ s.toList) (hhead : ¬ Text.startsWith s "test_") (ext : String) :
    testedSubject (s ++ ".test." ++ ext) = Text.asciiLowerCase s ↔ ∀ tail ∈ testTails, ¬ Text.endsWith s tail := by
  rw [testedSubject_eq, markedOff_test hs, withoutHead_eq_self hhead, asciiLowerCase_withoutTail_iff]

theorem subject_testHead_iff (hs : '.' ∉ s.toList) :
    testedSubject ("test_" ++ s ++ ".py") = Text.asciiLowerCase s ↔ ∀ tail ∈ testTails, ¬ Text.endsWith s tail := by
  have hdots : '.' ∉ ("test_" ++ s).toList := by simpa using hs
  have hname : "test_" ++ s ++ ".py" = "test_" ++ s ++ "." ++ "py" := by
    simp only [String.append_assoc]
    rfl
  rw [hname, testedSubject_eq, markedOff_dotted hdots (by decide), withoutHead_testHead, asciiLowerCase_withoutTail_iff]

/-- A name that has the head of tests only with something behind it is a part of that head. -/
theorem mem_inits_testHead {tail : String} (h : Text.startsWith (s ++ tail) "test_")
    (hhead : ¬ Text.startsWith s "test_") :
    s.toList ∈ "test_".toList.inits ∧ "test_".toList <+: s.toList ++ tail.toList ∧ ¬ "test_".toList <+: s.toList := by
  simp only [Text.startsWith, List.isPrefixOf_iff_prefix, String.toList_append] at h hhead
  refine ⟨(List.mem_inits _ _).mpr ?_, h, hhead⟩
  exact (List.prefix_or_prefix_of_prefix h (List.prefix_append _ _)).resolve_left hhead

/-- An ending that is added comes off again, whatever stands before it. -/
theorem subject_score (hs : '.' ∉ s.toList) (hhead : ¬ Text.startsWith s "test_") :
    testedSubject (s ++ "_test.go") = Text.asciiLowerCase s := by
  have hdots : '.' ∉ (s ++ "_test").toList := by simpa using hs
  have hname : s ++ "_test.go" = s ++ "_test" ++ "." ++ "go" := by
    simp only [String.append_assoc]
    rfl
  rw [hname, testedSubject_eq, markedOff_dotted hdots (by decide)]
  by_cases hstart : Text.startsWith (s ++ "_test") "test_"
  · have hshort : ∀ part ∈ "test_".toList.inits, "test_".toList <+: part ++ "_test".toList →
        ¬ "test_".toList <+: part → part = "test".toList := by decide
    obtain ⟨hmem, hboth, hnot⟩ := mem_inits_testHead hstart hhead
    rw [String.toList_injective (hshort s.toList hmem hboth hnot)]
    decide
  · rw [withoutHead_eq_self hstart, withoutTail_score]

theorem subject_capital (hs : '.' ∉ s.toList) (hhead : ¬ Text.startsWith s "test_") (hext : '.' ∉ ext.toList) :
    testedSubject (s ++ "Test." ++ ext) = Text.asciiLowerCase s := by
  have hdots : '.' ∉ (s ++ "Test").toList := by simpa using hs
  have hname : s ++ "Test." ++ ext = s ++ "Test" ++ "." ++ ext := by
    simp only [String.append_assoc]
    rfl
  have hstart : ¬ Text.startsWith (s ++ "Test") "test_" := by
    intro hstart
    have hshort : ∀ part ∈ "test_".toList.inits, ¬ "test_".toList <+: part ++ "Test".toList ∨
        "test_".toList <+: part := by decide
    obtain ⟨hmem, hboth, hnot⟩ := mem_inits_testHead hstart hhead
    exact (hshort s.toList hmem).elim (fun h => h hboth) hnot
  rw [hname, testedSubject_eq, markedOff_dotted hdots hext, withoutHead_eq_self hstart, withoutTail_capital]

end Names

variable {u t : TextUnit} {content : Option String}

theorem path_advised (u : TextUnit) (content : Option String) :
    (advised u content).path = Path.leading u.path ++ suggestedName u := rfl

/-- The parts of the name of a file that is not a test. -/
theorem parts_of_not_isTest (hu : ¬ u.isTest) : ¬ Text.startsWith (stem u.fileName) "test_" ∧
    ¬ TextUnit.HasMarker (TextUnit.folded (Path.leading u.path ++ stem u.fileName)) ∧
      ¬ TextUnit.HasMarker ((lastPart u.fileName).toList.map TextUnit.foldedChar) := by
  have hnone : ¬ TextUnit.HasMarker (TextUnit.folded u.path) := fun h => hu (TextUnit.isTestPath_iff.mpr (.inl h))
  have hpath : u.path = Path.leading u.path ++ u.fileName := (Path.leading_baseName u.path).symm
  obtain ⟨rest, hrest⟩ := exists_stem u.fileName
  obtain ⟨front, hfront⟩ := exists_lastPart u.fileName
  refine ⟨?_, ?_, ?_⟩
  · intro hstart
    obtain ⟨tail, htail⟩ := Text.startsWith_iff.mp hstart
    apply hnone
    have hplace : u.path = Path.leading u.path ++ "test_" ++ (tail ++ rest) := by
      calc u.path = Path.leading u.path ++ (stem u.fileName ++ rest) := by rw [← hrest, ← hpath]
        _ = Path.leading u.path ++ ("test_" ++ tail ++ rest) := by rw [← htail]
        _ = Path.leading u.path ++ "test_" ++ (tail ++ rest) := by simp only [String.append_assoc]
    rw [hplace]
    exact TextUnit.hasMarker_testHead (TextUnit.endsDirectory_leading u.path) _
  · intro h
    apply hnone
    rw [hpath, hrest, ← String.append_assoc, TextUnit.folded_append]
    exact h.mono (List.prefix_append _ _).isInfix
  · intro h
    apply hnone
    rw [hpath, hfront, ← String.append_assoc, TextUnit.folded_append]
    exact h.mono (List.suffix_append _ _).isInfix

/-- The names that are asked for, by language. -/
theorem suggestedName_cases (hl : u.language ∈ testedLanguages) :
    (u.language = .typescript ∨ u.language = .javascript) ∧
        suggestedName u = stem u.fileName ++ ".test." ++ lastPart u.fileName ∨
      u.language = .python ∧ suggestedName u = "test_" ++ stem u.fileName ++ ".py" ∨
      u.language = .go ∧ suggestedName u = stem u.fileName ++ "_test.go" ∨
      (u.language = .java ∨ u.language = .kotlin) ∧
        suggestedName u = stem u.fileName ++ "Test." ++ lastPart u.fileName := by
  simp only [testedLanguages, List.mem_cons, List.not_mem_nil, or_false] at hl
  unfold suggestedName lastPart
  cases Text.cutLast? u.fileName "." <;> rcases hl with h | h | h | h | h | h <;> simp [h, toString]

theorem notMem_suggestedName (hl : u.language ∈ testedLanguages) : '/' ∉ (suggestedName u).toList := by
  have hname := Path.notMem_baseName u.path
  have hstem : '/' ∉ (stem u.fileName).toList := by
    obtain ⟨rest, hrest⟩ := exists_stem u.fileName
    intro hslash
    apply hname
    change '/' ∈ u.fileName.toList
    rw [hrest, String.toList_append]
    exact List.mem_append_left _ hslash
  have hlast : '/' ∉ (lastPart u.fileName).toList := by
    obtain ⟨front, hfront⟩ := exists_lastPart u.fileName
    intro hslash
    apply hname
    change '/' ∈ u.fileName.toList
    rw [hfront, String.toList_append]
    exact List.mem_append_right _ hslash
  rcases suggestedName_cases hl with ⟨-, h⟩ | ⟨-, h⟩ | ⟨-, h⟩ | ⟨-, h⟩ <;> rw [h] <;> simp [hstem, hlast]

theorem fileName_advised (hl : u.language ∈ testedLanguages) : (advised u content).fileName = suggestedName u :=
  Path.baseName_leading u.path (notMem_suggestedName hl)

/-- What is asked for is a test of the file, for names that can be followed and for no others. -/
theorem tests_advised_iff (content : Option String) (hu : ¬ u.isTest) (hl : u.language ∈ testedLanguages) :
    Tests (advised u content) u ↔ IsFollowable u := by
  obtain ⟨hhead, hstem, hlast⟩ := parts_of_not_isTest hu
  have hs := notMem_stem u.fileName
  have hlead := TextUnit.endsDirectory_leading u.path
  have hpath (marker : String) (hmarker : marker ∈ TextUnit.testMarkers) (rest : String)
      (hname : suggestedName u = stem u.fileName ++ marker ++ rest) : (advised u content).isTest := by
    apply TextUnit.isTestPath_iff.mpr (.inl _)
    rw [path_advised, hname, ← String.append_assoc, ← String.append_assoc]
    exact TextUnit.hasMarker_append hmarker _ rest
  rw [Tests, fileName_advised hl]
  rcases suggestedName_cases hl with ⟨hlang, hname⟩ | ⟨hlang, hname⟩ | ⟨hlang, hname⟩ | ⟨hlang, hname⟩
  · rw [and_iff_right (hpath ".test." (by decide) _ hname), hname, subject_test_iff hs hhead]
    rcases hlang with hlang | hlang <;> simp [IsFollowable, hlang]
  · have htest : (advised u content).isTest := by
      apply TextUnit.isTestPath_iff.mpr (.inl _)
      rw [path_advised, hname, String.append_assoc, ← String.append_assoc]
      exact TextUnit.hasMarker_testHead hlead _
    rw [and_iff_right htest, hname, subject_testHead_iff hs]
    simp [IsFollowable, hlang]
  · have htest : (advised u content).isTest := by
      apply hpath "_test." (by decide) "go"
      rw [hname, String.append_assoc]
      rfl
    rw [hname]
    simp [IsFollowable, hlang, htest, subject_score hs hhead]
  · have hext := notMem_lastPart u.fileName
    have htest := TextUnit.isTestPath_capital_iff hlead hs hext
    rw [TextUnit.isTest, path_advised, hname, htest, or_iff_right hstem, or_iff_right hlast,
      and_iff_left (subject_capital hs hhead hext)]
    rcases hlang with hlang | hlang <;> simp [IsFollowable, hlang]

section Project

variable {units before after : List TextUnit} {found : List Violation} {v : Violation}

theorem isSignificant_spec {content : String} (h : isSignificant u content) :
    ¬ u.isTest ∧ u.language ∈ testedLanguages := by
  unfold isSignificant at h
  dsimp only at h
  split at h
  · cases h
  · rename_i hskip
    simp only [Bool.or_eq_true, not_or, Bool.not_eq_true, Bool.not_eq_eq_eq_not, Bool.not_true,
      Bool.not_eq_false, List.contains_iff_mem] at hskip
    exact ⟨by simp [hskip.1.1.1], hskip.1.1.2⟩

theorem mem_missingTestFiles_iff :
    v ∈ missingTestFiles units ↔ ∃ u ∈ units, IsMissing units u ∧ v = report u := by
  have htested (name : String) : name ∈ (units.filter TextUnit.isTest).map (fun t => testedSubject t.fileName) ↔
      ∃ t ∈ units, t.isTest ∧ testedSubject t.fileName = name := by
    simp only [List.mem_map, List.mem_filter, and_assoc]
  unfold missingTestFiles
  dsimp only
  rw [List.mem_filterMap]
  refine exists_congr fun u => and_congr_right fun hu => ?_
  unfold IsMissing Tests
  cases hcontent : u.content with
  | none => simp
  | some content =>
    have hnone : (∀ t ∈ units, ¬ (t.isTest ∧ testedSubject t.fileName = Text.asciiLowerCase (stem u.fileName))) ↔
        Text.asciiLowerCase (stem u.fileName) ∉ (units.filter TextUnit.isTest).map fun t => testedSubject t.fileName := by
      rw [htested, not_exists]
      exact forall_congr' fun t => not_and.symm
    rw [hnone]
    simp only [Option.ite_none_left_eq_some, Bool.or_eq_true, Bool.not_eq_eq_eq_not, Bool.not_true, not_or,
      Bool.not_eq_false, List.contains_iff_mem, Option.some.injEq, exists_eq_left', eq_comm (a := v)]
    rfl

theorem mem_check_iff {content : String} (hu : u.isTest) : v ∈ check u content ↔
    v ∈ LineRule.checkAll lineRules u (LinePair.ofContent content u.language) ∨
      (u.language = .python ∧ v ∈ emptyPythonTests u (LinePair.ofContent content u.language)) ∨
      missingAssertions? u (LinePair.ofContent content u.language) = some v := by
  rw [check, if_pos hu, Violation.mem_sortByLine, List.mem_append, List.mem_append, Option.mem_toList, or_assoc]
  by_cases hpython : u.language = .python <;> simp [hpython]

/-- The reports on one file are by these rules, in each of the passes. -/
theorem rule_of_mem_passes (u : TextUnit) (lines : List LinePair) :
    (∀ v ∈ LineRule.checkAll lineRules u lines, v.rule ∈ lineRules.map (·.descriptor.id)) ∧
      (∀ v ∈ emptyPythonTests u lines, v.rule = emptyTest.id) ∧
      ∀ v, missingAssertions? u lines = some v → v.rule = noAssertions.id := by
  refine ⟨(LineRule.pass_checkAll lineRules u lines).rules, ?_, ?_⟩
  · intro v hv
    obtain ⟨x, -, hx⟩ := List.mem_filterMap.mp hv
    dsimp only at hx
    split at hx
    · cases hx
    · split at hx
      · cases hx
        rfl
      · cases hx
  · intro v hv
    unfold missingAssertions? at hv
    split at hv
    · cases hv
    · split at hv
      · cases hv
      · cases hv
        rfl

/-- No rule that looks at one file asks for a test file. -/
theorem rule_of_mem_check {content : String} (h : v ∈ check u content) : v.rule ≠ missingTestFile.id := by
  by_cases hu : u.isTest
  · obtain ⟨hlines, hempty, hassertions⟩ := rule_of_mem_passes u (LinePair.ofContent content u.language)
    have hothers : ∀ id ∈ lineRules.map (·.descriptor.id), id ≠ missingTestFile.id := by decide
    rcases (mem_check_iff hu).mp h with hv | ⟨-, hv⟩ | hv
    · exact hothers _ (hlines v hv)
    · rw [hempty v hv]
      decide
    · rw [hassertions v hv]
      decide
  · rw [check, if_neg hu] at h
    cases h

theorem exists_checkEach (units : List TextUnit) :
    ∃ own, ruleSet.checkEach units = .ok own ∧ ∀ v ∈ own, v.rule ≠ missingTestFile.id := by
  induction units with
  | nil => exact ⟨[], rfl, by simp⟩
  | cons u rest ih =>
    obtain ⟨own, hown, hrules⟩ := ih
    cases hcontent : u.content with
    | none =>
      have hcheck : ruleSet.check u = .error (.error (.missingContent u.path)) := by
        simp [ruleSet, TextRuleSet.onContent, hcontent]
      exact ⟨own, by rw [TextRuleSet.checkEach, hcheck, hown], hrules⟩
    | some content =>
      have hcheck : ruleSet.check u = .ok (check u content) := by
        simp [ruleSet, TextRuleSet.onContent, hcontent]
      refine ⟨check u content ++ own, by rw [TextRuleSet.checkEach, hcheck, hown]; rfl, ?_⟩
      intro v hv
      rcases List.mem_append.mp hv with hv | hv
      · exact rule_of_mem_check hv
      · exact hrules v hv

/-- A project is always checked, and a test file is asked for where one is missing. -/
theorem exists_checkProject (units : List TextUnit) : ∃ found, ruleSet.checkProject units = .ok found ∧
    ∀ v, (v ∈ found ∧ v.rule = missingTestFile.id ↔ ∃ u ∈ units, IsMissing units u ∧ v = report u) := by
  obtain ⟨own, hown, hrules⟩ := exists_checkEach units
  refine ⟨_, by rw [TextRuleSet.checkProject, hown]; rfl, ?_⟩
  intro v
  rw [← mem_missingTestFiles_iff]
  constructor
  · rintro ⟨hv, hrule⟩
    rcases List.mem_append.mp (Violation.mem_sortByFile.mp hv) with hv | hv
    · exact absurd hrule (hrules v hv)
    · exact hv
  · intro hv
    refine ⟨Violation.mem_sortByFile.mpr (List.mem_append_right _ hv), ?_⟩
    obtain ⟨u, -, -, rfl⟩ := mem_missingTestFiles_iff.mp hv
    rfl

/-- A report on a missing test file asks for a file beside the one that it is about. Once that is added, whatever it holds,
there is no such report on that file any more, if and only if the name can be followed. -/
theorem advice_clears_iff (hfound : ruleSet.checkProject (before ++ after) = .ok found) (hv : v ∈ found)
    (hrule : v.rule = missingTestFile.id) :
    ∃ u ∈ before ++ after, v = report u ∧ ∀ content,
      ∃ found', ruleSet.checkProject (before ++ advised u content :: after) = .ok found' ∧
        ((∀ w ∈ found', w.rule = missingTestFile.id → w.file ≠ u.path) ↔ IsFollowable u) := by
  obtain ⟨_, hsame, hreports⟩ := exists_checkProject (before ++ after)
  rw [hfound] at hsame
  cases hsame
  obtain ⟨u, hu, hmissing, rfl⟩ := (hreports v).mp ⟨hv, hrule⟩
  refine ⟨u, hu, rfl, fun content => ?_⟩
  obtain ⟨found', hfound', hreports'⟩ := exists_checkProject (before ++ advised u content :: after)
  refine ⟨found', hfound', ?_⟩
  obtain ⟨⟨text, htext, hsignificant⟩, huntested⟩ := hmissing
  obtain ⟨hnotTest, hlanguage⟩ := isSignificant_spec hsignificant
  have hmem {t : TextUnit} : t ∈ before ++ advised u content :: after ↔ t = advised u content ∨ t ∈ before ++ after := by
    rw [List.mem_append, List.mem_cons, List.mem_append, or_left_comm]
  rw [← tests_advised_iff content hnotTest hlanguage]
  constructor
  · intro hclear
    by_contra hnot
    have hstill : IsMissing (before ++ advised u content :: after) u := by
      refine ⟨⟨text, htext, hsignificant⟩, ?_⟩
      intro t ht
      rcases hmem.mp ht with rfl | ht
      · exact hnot
      · exact huntested t ht
    obtain ⟨hw, hrule⟩ := (hreports' (report u)).mpr ⟨u, hmem.mpr (.inr hu), hstill, rfl⟩
    exact hclear _ hw hrule rfl
  · intro htests w hw hrule hfile
    obtain ⟨other, -, ⟨-, huntested'⟩, rfl⟩ := (hreports' w).mp ⟨hw, hrule⟩
    -- Another file of the project can have the same path; the test is named after it as well.
    have hname : other.fileName = u.fileName := congrArg Path.baseName hfile
    apply huntested' (advised u content) (hmem.mpr (.inl rfl))
    rw [Tests, hname]
    exact htests

/-- A source text that asks for a test. -/
def sizeable : String := "class A\n" ++ Text.repeatText significantLines "x\n"

theorem declares_sizeable : declaration.isMatch sizeable = true := by
  decide +kernel

theorem isSignificant_sizeable (hu : u.isTest = false) (hl : testedLanguages.contains u.language = true)
    (hname : (Text.endsWith u.fileName ".d.ts" || untestedStems.contains (stem u.fileName)) = false)
    (hmask : Lexical.mask u.language sizeable = sizeable) : isSignificant u sizeable := by
  have hlines : significantLines ≤ Lexical.codeLineCount sizeable := by decide +kernel
  obtain ⟨hdeclares, hstem⟩ := Bool.or_eq_false_iff.mp hname
  simp only [isSignificant, hu, hl, hdeclares, hstem, hmask, declares_sizeable, hlines, Bool.not_true, Bool.or_self,
    Bool.false_eq_true, ↓reduceIte, decide_true, Bool.and_self]

def userSource : TextUnit := ⟨"src/user.ts", .typescript, some sizeable⟩

/-- The name of a class of users that are tested, not that of a test. -/
def userTestSource : TextUnit := ⟨"src/userTest.ts", .typescript, some sizeable⟩

def buildScript : TextUnit := ⟨"app/Build.kts", .kotlin, some sizeable⟩

theorem isSignificant_sources : isSignificant userSource sizeable ∧ isSignificant userTestSource sizeable ∧
    isSignificant buildScript sizeable := by
  refine ⟨?_, ?_, ?_⟩ <;> apply isSignificant_sizeable <;> decide +kernel

/-- With `user.test.ts` beside it `user.ts` is tested. -/
theorem user_advice_clears : ∃ found v, ruleSet.checkProject ([] ++ [userSource]) = .ok found ∧ v ∈ found ∧
    v.rule = missingTestFile.id ∧ ∃ u ∈ [] ++ [userSource], v = report u ∧ ∀ content,
      ∃ found', ruleSet.checkProject ([] ++ advised u content :: [userSource]) = .ok found' ∧
        ((∀ w ∈ found', w.rule = missingTestFile.id → w.file ≠ u.path) ↔ IsFollowable u) := by
  obtain ⟨found, hfound, hreports⟩ := exists_checkProject [userSource]
  obtain ⟨hv, hrule⟩ := (hreports (report userSource)).mpr ⟨userSource, List.mem_singleton_self _,
    ⟨⟨sizeable, rfl, isSignificant_sources.1⟩, by decide +kernel⟩, rfl⟩
  exact ⟨found, report userSource, hfound, hv, hrule, advice_clears_iff hfound hv hrule⟩

def userTestTest : TextUnit := ⟨"src/userTest.test.ts", .typescript, some "expect(user()).toBe(1);\n"⟩

def buildTest : TextUnit := ⟨"app/BuildTest.kts", .kotlin, some "class BuildTest\n"⟩

/-- A part of a name that is an ending of tests comes off with the mark, and a Kotlin script is no test by its name. -/
theorem advice_leaves_reports :
    suggestedName userTestSource = "userTest.test.ts" ∧ suggestedName buildScript = "BuildTest.kts" ∧
      ∃ found found', ruleSet.checkProject [userTestSource, buildScript] = .ok found ∧
        report userTestSource ∈ found ∧ report buildScript ∈ found ∧
        ruleSet.checkProject [userTestSource, userTestTest, buildScript, buildTest] = .ok found' ∧
        report userTestSource ∈ found' ∧ report buildScript ∈ found' := by
  obtain ⟨found, hfound, hreports⟩ := exists_checkProject [userTestSource, buildScript]
  obtain ⟨found', hfound', hreports'⟩ := exists_checkProject [userTestSource, userTestTest, buildScript, buildTest]
  obtain ⟨-, huser, hbuild⟩ := isSignificant_sources
  have hmissing {u : TextUnit} (h : ∀ t ∈ [userTestSource, userTestTest, buildScript, buildTest], ¬ Tests t u)
      (hcontent : u.content = some sizeable) (hu : isSignificant u sizeable) :
      IsMissing [userTestSource, buildScript] u ∧ IsMissing [userTestSource, userTestTest, buildScript, buildTest] u := by
    refine ⟨⟨⟨sizeable, hcontent, hu⟩, fun t ht => h t ?_⟩, ⟨⟨sizeable, hcontent, hu⟩, h⟩⟩
    simp only [List.mem_cons, List.not_mem_nil, or_false] at ht ⊢
    rcases ht with rfl | rfl <;> simp
  obtain ⟨huser, huser'⟩ := hmissing (by decide +kernel) rfl huser
  obtain ⟨hbuild, hbuild'⟩ := hmissing (by decide +kernel) rfl hbuild
  refine ⟨by decide +kernel, by decide +kernel, found, found', hfound, ?_, ?_, hfound', ?_, ?_⟩
  · exact ((hreports _).mpr ⟨userTestSource, by simp, huser, rfl⟩).1
  · exact ((hreports _).mpr ⟨buildScript, by simp, hbuild, rfl⟩).1
  · exact ((hreports' _).mpr ⟨userTestSource, by simp, huser', rfl⟩).1
  · exact ((hreports' _).mpr ⟨buildScript, by simp, hbuild', rfl⟩).1

end Project

end CodeAudit.TestHygiene
