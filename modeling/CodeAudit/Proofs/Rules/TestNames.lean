import CodeAudit.Proofs.Path.Place
import CodeAudit.Rules.TestHygiene
import Mathlib.Data.Bool.AllAny
import Mathlib.Data.List.Infix
import Mathlib.Data.List.TakeWhile

/-! By what a path is the path of a test, and by what the name of a test names what it tests. -/
namespace CodeAudit

namespace Text

variable {head cs : Chars} {s : String} {c d : Char}

theorem dropHead?_append (head cs : Chars) : dropHead? head (head ++ cs) = some cs := by
  induction head with
  | nil => rw [List.nil_append, dropHead?]
  | cons x head ih => rw [List.cons_append, dropHead?, if_pos rfl, ih]

theorem dropHead?_eq_none (h : ¬ head <+: cs) : dropHead? head cs = none := by
  cases hdrop : dropHead? head cs with
  | none => rfl
  | some b => exact absurd ⟨b, append_of_dropHead? hdrop⟩ h

theorem afterHead?_append (head s : String) : afterHead? (head ++ s) head = some s := by
  simp [afterHead?, dropHead?_append]

theorem afterHead?_eq_none {head : String} (h : ¬ startsWith s head) : afterHead? s head = none := by
  rw [startsWith, List.isPrefixOf_iff_prefix] at h
  rw [afterHead?, dropHead?_eq_none h, Option.map_none]

theorem beforeTail?_append (s tail : String) : beforeTail? (s ++ tail) tail = some s := by
  simp [beforeTail?, dropHead?_append]

theorem beforeTail?_eq_none {tail : String} (h : ¬ endsWith s tail) : beforeTail? s tail = none := by
  rw [endsWith, List.isSuffixOf_iff_suffix, ← List.reverse_prefix] at h
  rw [beforeTail?, dropHead?_eq_none h, Option.map_none]

theorem append_of_beforeTail? {tail front : String} (h : beforeTail? s tail = some front) : front ++ tail = s := by
  obtain ⟨back, hdrop, rfl⟩ := Option.map_eq_some_iff.mp h
  apply String.toList_injective
  have happend := congrArg List.reverse (append_of_dropHead? hdrop)
  simpa [List.reverse_append] using happend

theorem startsWith_iff {head : String} : startsWith s head ↔ ∃ rest, s = head ++ rest := by
  rw [startsWith, List.isPrefixOf_iff_prefix]
  constructor
  · rintro ⟨rest, hrest⟩
    refine ⟨.ofList rest, String.toList_injective ?_⟩
    simp [hrest]
  · rintro ⟨rest, rfl⟩
    simp

theorem endsWith_iff {tail : String} : endsWith s tail ↔ ∃ front, s = front ++ tail := by
  rw [endsWith, List.isSuffixOf_iff_suffix]
  constructor
  · rintro ⟨front, hfront⟩
    refine ⟨.ofList front, String.toList_injective ?_⟩
    simp [hfront]
  · rintro ⟨front, rfl⟩
    simp

/-- The first place of a part is at its first character, if that does not occur before. -/
theorem cutChars?_part {part a : Chars} (h : c ∉ a) (b : Chars) :
    cutChars? (c :: part) (a ++ (c :: part ++ b)) = some (a, b) := by
  induction a with
  | nil => rw [List.nil_append, List.cons_append, cutChars?, ← List.cons_append, dropHead?_append]
  | cons x a ih =>
    obtain ⟨hx, ha⟩ := not_or.mp (mt List.mem_cons.mpr h)
    rw [List.cons_append, cutChars?, dropHead?, if_neg hx, ih ha]
    rfl

theorem not_endsWith_append {part tail : String} (hlength : part.length ≤ tail.length) (h : ¬ part.toList <:+ tail.toList)
    (s : String) : ¬ endsWith (s ++ part) tail := by
  rw [endsWith, List.isSuffixOf_iff_suffix]
  intro htail
  refine h (List.suffix_of_suffix_length_le ?_ htail hlength)
  simp

/-- Texts that end alike end alike in front of their last dots. -/
theorem endsWith_dotted {a b front tail : String} (hb : '.' ∉ b.toList) (htail : '.' ∉ tail.toList) :
    endsWith (a ++ "." ++ b) (front ++ "." ++ tail) ↔ endsWith a front ∧ b = tail := by
  rw [endsWith_iff, endsWith_iff]
  constructor
  · rintro ⟨lead, heq⟩
    have hcut : cutLast? (a ++ "." ++ b) "." = some (a, b) := cutLast?_append rfl hb
    rw [heq, ← String.append_assoc, ← String.append_assoc, cutLast?_append rfl htail] at hcut
    cases hcut
    exact ⟨⟨lead, rfl⟩, rfl⟩
  · rintro ⟨⟨lead, rfl⟩, rfl⟩
    exact ⟨lead, by simp only [String.append_assoc]⟩

theorem cut?_eq_none_of_count {part : String} (h : s.toList.count c < part.toList.count c) : cut? s part = none := by
  rw [cut?]
  cases hcut : cutChars? part.toList s.toList with
  | none => rfl
  | some halves =>
    have hcount := congrArg (List.count c) (append_of_cutChars? hcut)
    rw [List.count_append, List.count_append] at hcount
    omega

@[simp]
theorem toList_asciiLowerCase (s : String) : (asciiLowerCase s).toList = s.toList.map asciiLowerChar := by
  simp [asciiLowerCase]

/-- What is not a small letter stands for itself alone. -/
theorem eq_of_asciiLowerChar_eq (hd : ¬ ('a' ≤ d ∧ d ≤ 'z')) (h : asciiLowerChar c = d) : c = d := by
  unfold asciiLowerChar at h
  split at h
  case isFalse => exact h
  case isTrue hcapital =>
    have hlo : 65 ≤ c.toNat := hcapital.1
    have hhi : c.toNat ≤ 90 := hcapital.2
    have hvalid : (c.toNat + 32).isValidChar := .inl (by omega)
    have hsmall : d.toNat = c.toNat + 32 := by
      rw [← h, Char.ofNat, dif_pos hvalid]
      rfl
    refine absurd ⟨?_, ?_⟩ hd
    · show 97 ≤ d.toNat
      omega
    · show d.toNat ≤ 122
      omega

end Text

namespace Path

variable {path name : String}

/-- What stands in front of the last name on a path. -/
def leading (path : String) : String :=
  match Text.cutLast? path "/" with
  | none => ""
  | some (directory, _) => directory ++ "/"

theorem leading_baseName (path : String) : leading path ++ baseName path = path := by
  unfold leading baseName
  cases hcut : Text.cutLast? path "/" with
  | none => simp
  | some halves => exact Text.append_of_cutLast? hcut

theorem notMem_baseName (path : String) : '/' ∉ (baseName path).toList := by
  unfold baseName
  cases hcut : Text.cutLast? path "/" with
  | none =>
    intro hslash
    obtain ⟨before, after, hsplit⟩ := Text.exists_last (show "/".toList = ['/'] from rfl) hslash
    rw [(Text.cutLast?_eq_some_iff rfl).mpr hsplit] at hcut
    cases hcut
  | some halves => exact ((Text.cutLast?_eq_some_iff rfl).mp hcut).2

theorem baseName_leading (path : String) (hname : '/' ∉ name.toList) : baseName (leading path ++ name) = name := by
  unfold leading
  cases Text.cutLast? path "/" with
  | none => simp [baseName, Text.cutLast?_of_notMem (show "/".toList = ['/'] from rfl) hname]
  | some halves => simp [baseName, Text.cutLast?_append (show "/".toList = ['/'] from rfl) hname]

end Path

namespace TextUnit

variable {path lead rest s ext tail marker : String}

/-- A character of a path as the marks of tests are searched in it. -/
def foldedChar (c : Char) : Char := Text.asciiLowerChar (if c = '\\' then '/' else c)

def folded (path : String) : Text.Chars := '/' :: path.toList.map foldedChar

/-- Text behind which a name begins. -/
def EndsDirectory (lead : String) : Prop := ['/'] <:+ folded lead

/-- A part of a name says that it is the name of a test. -/
def HasMarker (cs : Text.Chars) : Prop := ∃ marker ∈ testMarkers, marker.toList <:+: cs

theorem folded_append (lead rest : String) : folded (lead ++ rest) = folded lead ++ rest.toList.map foldedChar := by
  simp [folded]

theorem HasMarker.mono {cs ds : Text.Chars} (h : HasMarker cs) (hpart : cs <:+: ds) : HasMarker ds := by
  obtain ⟨marker, hmarker, hcs⟩ := h
  exact ⟨marker, hmarker, hcs.trans hpart⟩

theorem map_foldedChar_marker : ∀ marker ∈ testMarkers, marker.toList.map foldedChar = marker.toList := by
  decide

theorem hasMarker_append (hmarker : marker ∈ testMarkers) (lead rest : String) :
    HasMarker (folded (lead ++ marker ++ rest)) := by
  refine ⟨marker, hmarker, folded lead, rest.toList.map foldedChar, ?_⟩
  rw [folded_append, folded_append, map_foldedChar_marker marker hmarker]

theorem hasMarker_testHead (hlead : EndsDirectory lead) (rest : String) :
    HasMarker (folded (lead ++ "test_" ++ rest)) := by
  obtain ⟨front, hfront⟩ := hlead
  refine ⟨"/test_", by decide, front, rest.toList.map foldedChar, ?_⟩
  rw [folded_append, folded_append, ← hfront]
  rw [show "test_".toList.map foldedChar = "test_".toList by decide]
  simp

theorem endsDirectory_leading (path : String) : EndsDirectory (Path.leading path) := by
  unfold Path.leading EndsDirectory
  cases Text.cutLast? path "/" with
  | none => exact List.suffix_refl _
  | some halves =>
    rw [folded_append]
    exact List.suffix_append _ _

/-- The name behind the last slash of either kind, in its place. -/
theorem exists_lead (path : String) : ∃ lead, path = lead ++ lastName path ∧ EndsDirectory lead := by
  have hsplit := List.takeWhile_append_dropWhile (p := fun c => c != '/' && c != '\\') (l := path.toList.reverse)
  have hstop := List.head?_dropWhile_not (fun c => c != '/' && c != '\\') path.toList.reverse
  generalize hlead : path.toList.reverse.dropWhile (fun c => c != '/' && c != '\\') = back at hsplit hstop
  refine ⟨.ofList back.reverse, ?_, ?_⟩
  · apply String.toList_injective
    rw [String.toList_append, lastName, String.toList_ofList, String.toList_ofList, ← List.reverse_append, hsplit,
      List.reverse_reverse]
  · cases back with
    | nil => exact List.suffix_refl _
    | cons c back =>
      have hslash : foldedChar c = '/' := by
        have hc : c = '/' ∨ c = '\\' := by
          by_contra hne
          simp_all
        rcases hc with rfl | rfl <;> decide
      refine ⟨'/' :: back.reverse.map foldedChar, ?_⟩
      simp [folded, hslash]

def capitalTails : List String := ["Test.java", "Tests.java", "Test.kt"]

theorem notMem_capitalTails : ∀ tail ∈ capitalTails, ∀ c ∈ tail.toList, c ≠ '/' ∧ c ≠ '\\' := by
  have hall : ∀ tail ∈ capitalTails, tail.toList.all fun c => c ≠ '/' ∧ c ≠ '\\' := by decide
  exact fun tail htail => List.all_iff_forall_prop.mp (hall tail htail)

theorem endsWith_lastName (htail : ∀ c ∈ tail.toList, c ≠ '/' ∧ c ≠ '\\') :
    Text.endsWith (lastName path) tail ↔ Text.endsWith path tail := by
  rw [Text.endsWith_iff, Text.endsWith_iff]
  constructor
  · rintro ⟨front, hfront⟩
    obtain ⟨lead, hlead, -⟩ := exists_lead path
    exact ⟨lead ++ front, by rw [hlead, hfront, String.append_assoc]⟩
  · rintro ⟨front, rfl⟩
    have hplain : ∀ c ∈ tail.toList.reverse, (c != '/' && c != '\\') = true := by
      intro c hc
      simpa using htail c (List.mem_reverse.mp hc)
    refine ⟨lastName front, String.toList_injective ?_⟩
    simp only [lastName, String.toList_append, List.reverse_append, List.takeWhile_append_of_pos hplain,
      String.toList_ofList, List.reverse_reverse]

/-- A path is that of a test by a marker somewhere on it or by the end of its last name. -/
theorem isTestPath_iff :
    isTestPath path ↔ HasMarker (folded path) ∨ ∃ tail ∈ capitalTails, Text.endsWith path tail := by
  have hlower : ("/" ++ Text.asciiLowerCase (String.ofList (path.toList.map fun c => if c = '\\' then '/' else c))).toList =
      folded path := by
    simp [folded, foldedChar, Function.comp_def]
  have hmarker : testMarkers.any (Text.contains
      ("/" ++ Text.asciiLowerCase (String.ofList (path.toList.map fun c => if c = '\\' then '/' else c)))) = true ↔
        HasMarker (folded path) := by
    simp only [List.any_eq_true, Text.contains, hlower, Text.isInfixOf_iff, HasMarker]
  have htails : ∀ tail ∈ capitalTails, Text.endsWith (lastName path) tail ↔ Text.endsWith path tail := by
    intro tail htail
    exact endsWith_lastName (notMem_capitalTails tail htail)
  have hhead : Text.startsWith (lastName path) "test_" → HasMarker (folded path) := by
    intro hstart
    obtain ⟨rest, hrest⟩ := Text.startsWith_iff.mp hstart
    obtain ⟨lead, hpath, hlead⟩ := exists_lead path
    rw [hpath, hrest, ← String.append_assoc]
    exact hasMarker_testHead hlead rest
  simp only [isTestPath, Bool.or_eq_true, hmarker]
  simp only [capitalTails, List.mem_cons, List.not_mem_nil, or_false, forall_eq_or_imp, forall_eq, exists_eq_or_imp,
    exists_eq_left] at htails ⊢
  rw [htails.1, htails.2.1, htails.2.2, or_iff_left_of_imp hhead]
  simp only [or_assoc]

theorem eq_of_foldedChar_eq {c d : Char} (hd : ¬ ('a' ≤ d ∧ d ≤ 'z')) (hslash : d ≠ '/') (h : foldedChar c = d) :
    c = d := by
  have hlower := Text.eq_of_asciiLowerChar_eq hd h
  split at hlower
  · exact absurd hlower.symm hslash
  · exact hlower

/-- Behind a directory the last character is that of the name. -/
theorem suffix_folded_iff {d : Char} (hlead : EndsDirectory lead) (hd : ¬ ('a' ≤ d ∧ d ≤ 'z')) (hslash : d ≠ '/')
    (hfolded : foldedChar d = d) : [d] <:+ folded (lead ++ s) ↔ [d] <:+ s.toList := by
  rw [folded_append]
  rcases List.eq_nil_or_concat s.toList with hs | ⟨front, c, hs⟩
  · rw [hs, List.map_nil, List.append_nil]
    constructor
    · intro hlast
      obtain ⟨front, hfront⟩ := hlead
      rw [← hfront] at hlast
      have heq : d = '/' := by simpa using hlast
      exact absurd heq hslash
    · intro hlast
      cases List.suffix_nil.mp hlast
  · have hsame : d = foldedChar c ↔ d = c :=
      ⟨fun heq => (eq_of_foldedChar_eq hd hslash heq.symm).symm, by rintro rfl; exact hfolded.symm⟩
    have hlast (before : Text.Chars) (x : Char) : [d] <:+ before ++ [x] ↔ d = x := by
      rw [← List.reverse_prefix]
      simp
    rw [hs, List.concat_eq_append, List.map_append, ← List.append_assoc, List.map_singleton, hlast, hlast]
    exact hsame

theorem length_marker : ∀ marker ∈ testMarkers, "test.".toList.length < marker.toList.length := by
  decide

theorem getLast?_marker : ∀ marker ∈ testMarkers, '.' ∈ marker.toList → marker.toList.getLast? = some '.' := by
  decide

theorem marker_of_suffix : ∀ marker ∈ testMarkers, ∀ part ∈ "test.".toList.inits, part ≠ [] → part <:+ marker.toList →
    part = "test.".toList ∧ (marker = ".test." ∨ marker = "_test.") := by
  decide

variable {before after : Text.Chars}

/-- A marker that goes beyond a text ends at the dot behind it. -/
theorem marker_testDot (hmarker : marker ∈ testMarkers) (h : marker.toList <:+: before ++ "test.".toList) :
    marker.toList <:+: before ∨ ['.'] <:+ before ∨ ['_'] <:+ before := by
  rcases List.infix_append_iff.mp h with hbefore | htest | ⟨part, rest, hsplit, hpart, hrest⟩
  · exact .inl hbefore
  · exact absurd htest.length_le (not_le.mpr (length_marker marker hmarker))
  · by_cases hnil : rest = []
    · subst hnil
      rw [List.append_nil] at hsplit
      exact .inl (hsplit ▸ hpart.isInfix)
    · have hsuffix : rest <:+ marker.toList := hsplit ▸ List.suffix_append part rest
      obtain ⟨rfl, rfl | rfl⟩ := marker_of_suffix marker hmarker rest ((List.mem_inits _ _).mpr hrest) hnil hsuffix
      · have heq : ['.'] = part := List.append_cancel_right hsplit
        exact .inr (.inl (heq ▸ hpart))
      · have heq : ['_'] = part := List.append_cancel_right hsplit
        exact .inr (.inr (heq ▸ hpart))

theorem hasMarker_testDot_iff (hafter : '.' ∉ after) : HasMarker (before ++ "test.".toList ++ after) ↔
    HasMarker before ∨ HasMarker after ∨ ['.'] <:+ before ∨ ['_'] <:+ before := by
  constructor
  · rintro ⟨marker, hmarker, hpart⟩
    have hleft (h : marker.toList <:+: before ++ "test.".toList) :
        HasMarker before ∨ HasMarker after ∨ ['.'] <:+ before ∨ ['_'] <:+ before := by
      rcases marker_testDot hmarker h with hbefore | hdot | hscore
      · exact .inl ⟨marker, hmarker, hbefore⟩
      · exact .inr (.inr (.inl hdot))
      · exact .inr (.inr (.inr hscore))
    rcases List.infix_append_iff.mp hpart with hfront | hback | ⟨front, back, hsplit, hfront, hback⟩
    · exact hleft hfront
    · exact .inr (.inl ⟨marker, hmarker, hback⟩)
    · by_cases hback' : back = []
      · subst hback'
        rw [List.append_nil] at hsplit
        exact hleft (hsplit ▸ hfront.isInfix)
      by_cases hfront' : front = []
      · subst hfront'
        exact .inr (.inl ⟨marker, hmarker, hsplit ▸ hback.isInfix⟩)
      -- The part in front ends with the dot, so the whole marker ends with one, and that lies behind.
      have hdot : '.' ∈ front := by
        obtain ⟨lead, hlead⟩ := hfront
        have hlast := congrArg List.getLast? hlead
        rw [List.getLast?_append_of_ne_nil _ hfront', List.getLast?_append_of_ne_nil _ (by decide)] at hlast
        exact List.mem_of_getLast? hlast
      have hlast := getLast?_marker marker hmarker (hsplit ▸ List.mem_append_left back hdot)
      rw [hsplit, List.getLast?_append_of_ne_nil _ hback'] at hlast
      exact absurd (hback.subset (List.mem_of_getLast? hlast)) hafter
  · rintro (h | h | ⟨lead, rfl⟩ | ⟨lead, rfl⟩)
    · refine h.mono ?_
      rw [List.append_assoc]
      exact (List.prefix_append _ _).isInfix
    · exact h.mono (List.suffix_append _ _).isInfix
    · exact ⟨".test.", by decide, lead, after, by simp⟩
    · exact ⟨"_test.", by decide, lead, after, by simp⟩

/-- A name with `Test` in front of its extension is that of a test by the extension, or by the character in front of
`Test`; other conventions see nothing in it that they did not see in its parts. -/
theorem isTestPath_capital_iff (hlead : EndsDirectory lead) (hs : '.' ∉ s.toList) (hext : '.' ∉ ext.toList) :
    isTestPath (lead ++ (s ++ "Test." ++ ext)) ↔ HasMarker (folded (lead ++ s)) ∨
      HasMarker (ext.toList.map foldedChar) ∨ Text.endsWith s "_" ∨ ext = "java" ∨ ext = "kt" := by
  have hfolded : folded (lead ++ (s ++ "Test." ++ ext)) =
      folded (lead ++ s) ++ "test.".toList ++ ext.toList.map foldedChar := by
    rw [← String.append_assoc, ← String.append_assoc, folded_append, folded_append]
    rfl
  have hafter : '.' ∉ ext.toList.map foldedChar := by
    intro hdot
    obtain ⟨c, hc, heq⟩ := List.mem_map.mp hdot
    exact hext (eq_of_foldedChar_eq (by decide) (by decide) heq ▸ hc)
  have hdot : ¬ ['.'] <:+ folded (lead ++ s) := by
    rw [suffix_folded_iff hlead (by decide) (by decide) (by decide)]
    exact fun h => hs (h.subset (List.mem_singleton_self _))
  have hscore : ['_'] <:+ folded (lead ++ s) ↔ Text.endsWith s "_" := by
    rw [suffix_folded_iff hlead (by decide) (by decide) (by decide), Text.endsWith, List.isSuffixOf_iff_suffix]
    rfl
  have htails : (∃ tail ∈ capitalTails, Text.endsWith (lead ++ (s ++ "Test." ++ ext)) tail) ↔ ext = "java" ∨ ext = "kt" := by
    have hpath : lead ++ (s ++ "Test." ++ ext) = (lead ++ s ++ "Test") ++ "." ++ ext := by
      simp only [String.append_assoc]
      rfl
    have htest : Text.endsWith (lead ++ s ++ "Test") "Test" := Text.endsWith_iff.mpr ⟨_, rfl⟩
    have htests : ¬ Text.endsWith (lead ++ s ++ "Test") "Tests" := Text.not_endsWith_append (by decide) (by decide) _
    have hdotted (front tail : String) (htail : '.' ∉ tail.toList) :
        Text.endsWith (lead ++ s ++ "Test" ++ "." ++ ext) (front ++ "." ++ tail) ↔
          Text.endsWith (lead ++ s ++ "Test") front ∧ ext = tail := Text.endsWith_dotted hext htail
    rw [hpath]
    simp only [capitalTails, List.mem_cons, List.not_mem_nil, or_false, exists_eq_or_imp, exists_eq_left]
    rw [show "Test.java" = "Test" ++ "." ++ "java" by rfl, show "Tests.java" = "Tests" ++ "." ++ "java" by rfl,
      show "Test.kt" = "Test" ++ "." ++ "kt" by rfl, hdotted _ _ (by decide), hdotted _ _ (by decide),
      hdotted _ _ (by decide)]
    simp [htest, htests]
  rw [isTestPath_iff, hfolded, hasMarker_testDot_iff hafter, htails, or_iff_right hdot, hscore]
  simp only [or_assoc]

end TextUnit

namespace TestHygiene

variable {name s ext rest : String}

/-- Endings of a name that are taken off it, the first that fits. -/
def testTails : List String := ["_test", "Tests", "Test"]

/-- A file name up to the mark of a test in its middle or else to its first dot. -/
def markedOff (name : String) : String :=
  (([".test.", ".spec."].findSome? fun marker => Text.cut? name marker).map (·.1)).getD (stem name)

def withoutHead (base : String) : String := (Text.afterHead? base "test_").getD base

def withoutTail (base : String) : String :=
  (((Text.beforeTail? base "_test").or (Text.beforeTail? base "Tests")).or (Text.beforeTail? base "Test")).getD base

theorem testedSubject_eq (name : String) :
    testedSubject name = Text.asciiLowerCase (withoutTail (withoutHead (markedOff name))) := rfl

theorem notMem_stem (name : String) : '.' ∉ (stem name).toList := by
  intro hdot
  rw [stem, String.toList_ofList] at hdot
  simpa using List.mem_takeWhile_imp hdot

theorem exists_stem (name : String) : ∃ rest, name = stem name ++ rest := by
  refine ⟨.ofList (name.toList.dropWhile (· != '.')), String.toList_injective ?_⟩
  simp [stem, List.takeWhile_append_dropWhile]

theorem stem_append (hs : '.' ∉ s.toList) (rest : String) : stem (s ++ "." ++ rest) = s := by
  have hplain : ∀ c ∈ s.toList, (c != '.') = true := by
    intro c hc
    simpa using ne_of_mem_of_not_mem hc hs
  apply String.toList_injective
  simp [stem, List.takeWhile_append_of_pos hplain]

/-- What stands behind the last dot of a file name, all of it if there is none. -/
def lastPart (name : String) : String :=
  match Text.cutLast? name "." with
  | some (_, ext) => ext
  | none => name

theorem notMem_lastPart (name : String) : '.' ∉ (lastPart name).toList := by
  unfold lastPart
  cases hcut : Text.cutLast? name "." with
  | none =>
    intro hdot
    obtain ⟨before, after, hsplit⟩ := Text.exists_last (show ".".toList = ['.'] from rfl) hdot
    rw [(Text.cutLast?_eq_some_iff rfl).mpr hsplit] at hcut
    cases hcut
  | some halves => exact ((Text.cutLast?_eq_some_iff rfl).mp hcut).2

theorem exists_lastPart (name : String) : ∃ front, name = front ++ lastPart name := by
  unfold lastPart
  cases hcut : Text.cutLast? name "." with
  | none => exact ⟨"", by simp⟩
  | some halves => exact ⟨_, (Text.append_of_cutLast? hcut).symm⟩

theorem markedOff_test (hs : '.' ∉ s.toList) (ext : String) : markedOff (s ++ ".test." ++ ext) = s := by
  have hcut : Text.cut? (s ++ ".test." ++ ext) ".test." = some (s, ext) := by
    have hchars : Text.cutChars? ('.' :: "test.".toList) (s.toList ++ ('.' :: "test.".toList ++ ext.toList)) =
        some (s.toList, ext.toList) := Text.cutChars?_part hs ext.toList
    have hlist : (s ++ ".test." ++ ext).toList = s.toList ++ ('.' :: "test.".toList ++ ext.toList) := by simp
    rw [Text.cut?, hlist, show ".test.".toList = '.' :: "test.".toList by rfl, hchars]
    simp
  simp [markedOff, hcut]

/-- With one dot only there is no mark in the middle. -/
theorem markedOff_dotted (hs : '.' ∉ s.toList) (hext : '.' ∉ ext.toList) : markedOff (s ++ "." ++ ext) = s := by
  have hcount : (s ++ "." ++ ext).toList.count '.' = 1 := by
    simp [List.count_eq_zero_of_not_mem hs, List.count_eq_zero_of_not_mem hext]
  have htest : Text.cut? (s ++ "." ++ ext) ".test." = none := by
    apply Text.cut?_eq_none_of_count (c := '.')
    rw [hcount]
    decide
  have hspec : Text.cut? (s ++ "." ++ ext) ".spec." = none := by
    apply Text.cut?_eq_none_of_count (c := '.')
    rw [hcount]
    decide
  simp [markedOff, htest, hspec, stem_append hs]

theorem withoutHead_testHead (s : String) : withoutHead ("test_" ++ s) = s := by
  rw [withoutHead, Text.afterHead?_append, Option.getD_some]

theorem withoutHead_eq_self (h : ¬ Text.startsWith s "test_") : withoutHead s = s := by
  rw [withoutHead, Text.afterHead?_eq_none h, Option.getD_none]

theorem withoutTail_score (s : String) : withoutTail (s ++ "_test") = s := by
  rw [withoutTail, Text.beforeTail?_append, Option.some_or, Option.some_or, Option.getD_some]

theorem withoutTail_capital (s : String) : withoutTail (s ++ "Test") = s := by
  have hscore : ¬ Text.endsWith (s ++ "Test") "_test" := Text.not_endsWith_append (by decide) (by decide) s
  have hplural : ¬ Text.endsWith (s ++ "Test") "Tests" := Text.not_endsWith_append (by decide) (by decide) s
  rw [withoutTail, Text.beforeTail?_eq_none hscore, Text.beforeTail?_eq_none hplural, Text.beforeTail?_append,
    Option.none_or, Option.none_or, Option.getD_some]

theorem withoutTail_spec (s : String) : (withoutTail s = s ∧ ∀ tail ∈ testTails, ¬ Text.endsWith s tail) ∨
    ∃ tail ∈ testTails, withoutTail s ++ tail = s := by
  have hends {tail : String} (h : Text.beforeTail? s tail = none) : ¬ Text.endsWith s tail := by
    intro hend
    obtain ⟨front, rfl⟩ := Text.endsWith_iff.mp hend
    rw [Text.beforeTail?_append] at h
    cases h
  unfold withoutTail
  cases hscore : Text.beforeTail? s "_test" with
  | some front => exact .inr ⟨"_test", by decide, Text.append_of_beforeTail? hscore⟩
  | none =>
    cases hplural : Text.beforeTail? s "Tests" with
    | some front => exact .inr ⟨"Tests", by decide, Text.append_of_beforeTail? hplural⟩
    | none =>
      cases hsingle : Text.beforeTail? s "Test" with
      | some front => exact .inr ⟨"Test", by decide, Text.append_of_beforeTail? hsingle⟩
      | none =>
        refine .inl ⟨rfl, ?_⟩
        intro tail htail
        simp only [testTails, List.mem_cons, List.not_mem_nil, or_false] at htail
        rcases htail with rfl | rfl | rfl
        · exact hends hscore
        · exact hends hplural
        · exact hends hsingle

/-- A name keeps its letters unless an ending is taken off it. -/
theorem asciiLowerCase_withoutTail_iff :
    Text.asciiLowerCase (withoutTail s) = Text.asciiLowerCase s ↔ ∀ tail ∈ testTails, ¬ Text.endsWith s tail := by
  rcases withoutTail_spec s with ⟨hsame, hends⟩ | ⟨tail, htail, happend⟩
  · rw [hsame]
    exact iff_of_true rfl hends
  · refine iff_of_false ?_ ?_
    · intro hlower
      have hlength := congrArg List.length (congrArg String.toList hlower)
      have htotal := congrArg List.length (congrArg String.toList happend)
      have hpos : ∀ tail ∈ testTails, 0 < tail.toList.length := by decide
      have := hpos tail htail
      simp only [Text.toList_asciiLowerCase, List.length_map, String.toList_append, List.length_append] at hlength htotal
      omega
    · exact fun hends => hends tail htail (Text.endsWith_iff.mpr ⟨_, happend.symm⟩)

end TestHygiene
end CodeAudit
