import CodeAudit.Path.Import
import Mathlib.Data.String.Basic

/-! Texts that are cut or put together keep their characters, and so do paths in normal form. A path in
normal form stays as it is. Which file an import leads to depends on which are known and not on their
order. -/
namespace CodeAudit

namespace Text

variable {c : Char} {part cs piece a b : Chars}

theorem mem_of_mem_splitChars {sep : Char} (h : piece ∈ splitChars sep cs) (hc : c ∈ piece) : c ∈ cs := by
  induction cs generalizing piece with
  | nil =>
    rw [splitChars, List.mem_singleton] at h
    subst h
    cases hc
  | cons x rest ih =>
    rw [splitChars] at h
    split at h
    · rcases List.mem_cons.mp h with rfl | h
      · cases hc
      · exact List.mem_cons_of_mem _ (ih h hc)
    · split at h
      · rename_i hnil
        exact absurd hnil (splitChars_ne_nil sep rest)
      · rename_i first others hsplit
        rcases List.mem_cons.mp h with rfl | h
        · rcases List.mem_cons.mp hc with rfl | hc
          · exact List.mem_cons_self
          · exact List.mem_cons_of_mem _ (ih (hsplit ▸ List.mem_cons_self) hc)
        · exact List.mem_cons_of_mem _ (ih (hsplit ▸ List.mem_cons_of_mem _ h) hc)

theorem isInfixOf_iff : isInfixOf part cs = true ↔ part <:+: cs := by
  induction cs with
  | nil => simp [isInfixOf]
  | cons c rest ih => simp [isInfixOf, ih, List.infix_cons_iff]

theorem contains_append (a part b : String) : contains (a ++ part ++ b) part = true := by
  rw [contains, isInfixOf_iff]
  exact ⟨a.toList, b.toList, by simp⟩

theorem append_of_dropHead? {head : Chars} (h : dropHead? head cs = some b) : head ++ b = cs := by
  induction head generalizing cs with
  | nil =>
    rw [dropHead?] at h
    cases h
    rfl
  | cons x head ih =>
    cases cs with
    | nil => cases h
    | cons y cs =>
      rw [dropHead?] at h
      split at h
      · subst x
        rw [List.cons_append, ih h]
      · cases h

theorem append_of_cutChars? (h : cutChars? part cs = some (a, b)) : a ++ part ++ b = cs := by
  induction cs generalizing a with
  | nil =>
    rw [cutChars?] at h
    split at h
    · cases h
      rename_i hpart
      rw [List.isEmpty_iff.mp hpart]
      rfl
    · cases h
  | cons x rest ih =>
    rw [cutChars?] at h
    split at h
    · cases h
      exact append_of_dropHead? ‹_›
    · obtain ⟨⟨before, after⟩, hcut, heq⟩ := Option.map_eq_some_iff.mp h
      cases heq
      rw [List.cons_append, List.cons_append, ih hcut]

theorem append_of_cutLast? {s part before after : String} (h : cutLast? s part = some (before, after)) :
    before ++ part ++ after = s := by
  obtain ⟨⟨a, b⟩, hcut, heq⟩ := Option.map_eq_some_iff.mp h
  cases heq
  apply String.toList_injective
  have happend := congrArg List.reverse (append_of_cutChars? hcut)
  simpa [List.reverse_append] using happend

theorem notMem_join {sep : String} {parts : List String} (hsep : c ∉ sep.toList) (h : ∀ s ∈ parts, c ∉ s.toList) :
    c ∉ (join sep parts).toList := by
  induction parts with
  | nil => simp [join]
  | cons s rest ih =>
    have hrest := ih fun x hx => h x (List.mem_cons_of_mem _ hx)
    cases rest with
    | nil => simpa [join] using h
    | cons t rest =>
      rw [join] at hrest ⊢
      rw [String.intercalate_cons_cons]
      simp only [String.toList_append, List.mem_append, not_or]
      exact ⟨⟨h s List.mem_cons_self, hsep⟩, hrest⟩

/-- No piece holds what the pieces were parted by. -/
theorem notMem_of_mem_splitChars {sep : Char} (h : piece ∈ splitChars sep cs) : sep ∉ piece := by
  induction cs generalizing piece with
  | nil =>
    rw [splitChars, List.mem_singleton] at h
    subst h
    exact List.not_mem_nil
  | cons x rest ih =>
    rw [splitChars] at h
    split at h
    · rcases List.mem_cons.mp h with rfl | h
      · exact List.not_mem_nil
      · exact ih h
    · rename_i hx
      split at h
      · rename_i hnil
        exact absurd hnil (splitChars_ne_nil sep rest)
      · rename_i first others hsplit
        rcases List.mem_cons.mp h with rfl | h
        · have hfirst : sep ∉ first := ih (hsplit ▸ List.mem_cons_self)
          simp only [List.mem_cons, not_or]
          exact ⟨Ne.symm hx, hfirst⟩
        · exact ih (hsplit ▸ List.mem_cons_of_mem _ h)

theorem splitChars_of_notMem {sep : Char} (h : sep ∉ cs) : splitChars sep cs = [cs] := by
  induction cs with
  | nil => rfl
  | cons x rest ih =>
    obtain ⟨hx, hrest⟩ := not_or.mp (mt List.mem_cons.mpr h)
    rw [splitChars, if_neg (Ne.symm hx), ih hrest]

/-- What stands before the first separator is the first piece. -/
theorem splitChars_append {sep : Char} (h : sep ∉ cs) (rest : Chars) :
    splitChars sep (cs ++ sep :: rest) = cs :: splitChars sep rest := by
  induction cs with
  | nil => rw [List.nil_append, splitChars, if_pos rfl]
  | cons x cs ih =>
    obtain ⟨hx, hcs⟩ := not_or.mp (mt List.mem_cons.mpr h)
    rw [List.cons_append, splitChars, if_neg (Ne.symm hx), ih hcs]

/-- Parting undoes joining. -/
theorem splitOn_join {sep : Char} {parts : List String} (hne : parts ≠ []) (h : ∀ s ∈ parts, sep ∉ s.toList) :
    splitOn (join (String.singleton sep) parts) sep = parts := by
  induction parts with
  | nil => exact absurd rfl hne
  | cons s rest ih =>
    obtain ⟨hs, hrest⟩ := List.forall_mem_cons.mp h
    cases rest with
    | nil => simp [splitOn, join, splitChars_of_notMem hs]
    | cons t rest =>
      have htail := ih (List.cons_ne_nil t rest) hrest
      rw [join, String.intercalate_cons_cons, ← join, splitOn]
      rw [splitOn] at htail
      have hchars : (s ++ String.singleton sep ++ join (String.singleton sep) (t :: rest)).toList =
          s.toList ++ sep :: (join (String.singleton sep) (t :: rest)).toList := by simp
      rw [hchars, splitChars_append hs, List.map_cons, htail, String.ofList_toList]

end Text

namespace Path

section Characters

variable {c : Char} {path : String}

theorem notMem_segments (hc : c ≠ '/') (h : c ∉ path.toList) : ∀ s ∈ segments path, c ∉ s.toList := by
  intro s hs hmem
  obtain ⟨piece, hpiece, rfl⟩ := List.mem_map.mp hs
  rw [String.toList_ofList] at hmem
  have hslashed := Text.mem_of_mem_splitChars hpiece hmem
  rw [String.toList_ofList, List.mem_map] at hslashed
  obtain ⟨x, hx, hxc⟩ := hslashed
  split at hxc
  · exact hc hxc.symm
  · exact h (hxc ▸ hx)

theorem mem_of_mem_foldSegment {absolute : Bool} {stack : List String} {segment s : String}
    (h : s ∈ foldSegment absolute stack segment) : s ∈ stack ∨ s = segment := by
  unfold foldSegment at h
  split at h
  · exact .inl h
  · split at h
    · subst segment
      split at h
      · split at h
        · cases h
        · exact .inr (List.mem_singleton.mp h)
      · split at h
        · exact .inl (List.mem_cons_of_mem _ h)
        · split at h
          · exact .inl h
          · exact (List.mem_cons.mp h).symm
    · exact (List.mem_cons.mp h).symm

theorem mem_of_mem_foldl_foldSegment {absolute : Bool} {segments stack : List String} {s : String}
    (h : s ∈ segments.foldl (foldSegment absolute) stack) : s ∈ stack ∨ s ∈ segments := by
  induction segments generalizing stack with
  | nil => exact .inl h
  | cons segment rest ih =>
    rcases ih h with hs | hs
    · rcases mem_of_mem_foldSegment hs with hs | rfl
      · exact .inl hs
      · exact .inr List.mem_cons_self
    · exact .inr (List.mem_cons_of_mem _ hs)

theorem foldSegments_subset (absolute : Bool) (segments : List String) : foldSegments absolute segments ⊆ segments := by
  intro s hs
  exact (mem_of_mem_foldl_foldSegment (List.mem_reverse.mp hs)).resolve_left List.not_mem_nil

/-- A path in normal form has no characters that were not there, slashes apart. -/
theorem notMem_normalize (hc : c ≠ '/') (h : c ∉ path.toList) : c ∉ (normalize path).toList := by
  have hslash : c ∉ "/".toList := by simpa using hc
  have hfolded : c ∉ (Text.join "/" (foldSegments (isAbsolute path) (segments path))).toList :=
    Text.notMem_join hslash fun s hs => notMem_segments hc h s (foldSegments_subset _ _ hs)
  rw [normalize]
  split
  · rw [String.toList_append, List.mem_append, not_or]
    exact ⟨hslash, hfolded⟩
  · exact hfolded

theorem notMem_of_cutLast? {part before after : String} (hcut : Text.cutLast? path part = some (before, after))
    (h : c ∉ path.toList) : c ∉ before.toList ∧ c ∉ after.toList := by
  rw [← Text.append_of_cutLast? hcut] at h
  simp only [String.toList_append, List.mem_append, not_or] at h
  exact ⟨h.1.1, h.2⟩

theorem notMem_splitName (h : c ∉ path.toList) :
    (∀ dir ∈ (splitName path).1, c ∉ dir.toList) ∧ c ∉ (splitName path).2.toList := by
  unfold splitName
  split
  · exact ⟨by simp, h⟩
  · obtain ⟨hdir, hname⟩ := notMem_of_cutLast? ‹_› h
    exact ⟨by simpa using hdir, hname⟩

theorem notMem_stem {name before after : String} (hcut : Text.cutLast? name "." = some (before, after))
    (h : c ∉ name.toList) : c ∉ (if before = "" then name else before).toList := by
  split
  · exact h
  · exact (notMem_of_cutLast? hcut h).1

theorem notMem_withoutExtension (hc : c ≠ '/') (h : c ∉ path.toList) : c ∉ (withoutExtension path).toList := by
  obtain ⟨hdir, hname⟩ := notMem_splitName h
  rcases hsplit : splitName path with ⟨_ | dir, name⟩
  · rw [hsplit] at hname
    simp only [withoutExtension, hsplit]
    split
    · exact notMem_stem ‹_› hname
    · exact hname
  · rw [hsplit] at hdir hname
    simp only [withoutExtension, hsplit, String.toList_append, List.mem_append, not_or]
    refine ⟨⟨hdir dir rfl, by simpa using hc⟩, ?_⟩
    split
    · exact notMem_stem ‹_› hname
    · exact hname

end Characters

/-- Only the empty path has nothing in front of its extension. -/
theorem withoutExtension_eq_empty {path : String} : withoutExtension path = "" ↔ path = "" := by
  constructor
  · intro h
    cases hcut : Text.cutLast? path "/" with
    | none =>
      simp only [withoutExtension, splitName, hcut] at h
      split at h
      · split at h
        · exact h
        · exact absurd h ‹_›
      · exact h
    | some parts =>
      simp only [withoutExtension, splitName, hcut] at h
      have hlength := congrArg String.length h
      have hslash : "/".length = 1 := rfl
      rw [String.length_append, String.length_append, hslash, String.length_empty] at hlength
      omega
  · rintro rfl
    rfl

variable {known known' : List String} {importer specifier path : String}

theorem smallest?_eq_none_iff {xs : List String} : smallest? xs = none ↔ xs = [] := by
  cases xs with
  | nil => simp [smallest?]
  | cons x rest =>
    rw [smallest?]
    split <;> simp

theorem smallest?_spec {xs : List String} {m : String} (h : smallest? xs = some m) : m ∈ xs ∧ ∀ x ∈ xs, m ≤ x := by
  induction xs generalizing m with
  | nil => cases h
  | cons x rest ih =>
    rw [smallest?] at h
    cases hrest : smallest? rest with
    | none =>
      rw [hrest] at h
      cases h
      rw [smallest?_eq_none_iff] at hrest
      subst hrest
      exact ⟨List.mem_singleton_self x, fun y hy => (List.mem_singleton.mp hy).ge⟩
    | some q =>
      obtain ⟨hq, hle⟩ := ih hrest
      simp only [hrest, Option.some.injEq] at h
      subst h
      split
      case isTrue hlt =>
        refine ⟨List.mem_cons_of_mem x hq, ?_⟩
        intro y hy
        rcases List.mem_cons.mp hy with rfl | hy
        · exact hlt.le
        · exact hle y hy
      case isFalse hnot =>
        refine ⟨List.mem_cons_self, ?_⟩
        intro y hy
        rcases List.mem_cons.mp hy with rfl | hy
        · exact le_rfl
        · exact (not_lt.mp hnot).trans (hle y hy)

/-- The smallest text depends on which there are, not on their order. -/
theorem smallest?_congr {xs ys : List String} (h : ∀ x, x ∈ xs ↔ x ∈ ys) : smallest? xs = smallest? ys := by
  cases hx : smallest? xs with
  | none =>
    rw [smallest?_eq_none_iff] at hx
    subst hx
    rw [eq_comm, smallest?_eq_none_iff, List.eq_nil_iff_forall_not_mem]
    exact fun y hy => List.not_mem_nil ((h y).mpr hy)
  | some m =>
    obtain ⟨hm, hle⟩ := smallest?_spec hx
    cases hy : smallest? ys with
    | none =>
      rw [smallest?_eq_none_iff] at hy
      subst hy
      exact absurd ((h m).mp hm) List.not_mem_nil
    | some m' =>
      obtain ⟨hm', hle'⟩ := smallest?_spec hy
      rw [le_antisymm (hle m' ((h m').mpr hm')) (hle' m ((h m).mp hm))]

theorem resolveImport_congr (h : ∀ p, p ∈ known ↔ p ∈ known') :
    resolveImport importer specifier known = resolveImport importer specifier known' := by
  have hcontains : ∀ p, known.contains p = known'.contains p := by
    intro p
    rw [Bool.eq_iff_iff, List.contains_iff_mem, List.contains_iff_mem, h]
  have hdotted : ∀ p : String → Bool, smallest? (known.filter p) = smallest? (known'.filter p) := by
    intro p
    refine smallest?_congr fun x => ?_
    rw [List.mem_filter, List.mem_filter, h]
  simp only [resolveImport, resolveDotted, hcontains, hdotted]

/-- An import leads to a known file or nowhere. -/
theorem mem_of_resolveImport (h : resolveImport importer specifier known = some path) : path ∈ known := by
  unfold resolveImport at h
  simp only at h
  split at h
  · exact List.contains_iff_mem.mp (List.find?_some h)
  · unfold resolveDotted at h
    split at h
    · cases h
    · split at h
      · cases h
      · exact List.mem_of_mem_filter (smallest?_spec h).1

section NormalForm

variable {absolute : Bool} {stack : List String} {path s : String}

/-- Each segment of the stack stays on top of those below it. -/
def Folded (absolute : Bool) : List String → Prop
  | [] => True
  | s :: rest => foldSegment absolute rest s = s :: rest ∧ Folded absolute rest

theorem folded_nil (absolute : Bool) : Folded absolute [] := trivial

theorem foldSegment_skipped {segment : String} (h : segment = "" ∨ segment = ".") :
    foldSegment absolute stack segment = stack :=
  if_pos h

theorem foldSegment_pushed {segment : String} (hskip : ¬(segment = "" ∨ segment = ".")) (hup : segment ≠ "..") :
    foldSegment absolute stack segment = segment :: stack :=
  (if_neg hskip).trans (if_neg hup)

theorem folded_foldSegment (h : Folded absolute stack) (segment : String) :
    Folded absolute (foldSegment absolute stack segment) := by
  by_cases hskip : segment = "" ∨ segment = "."
  · rw [foldSegment_skipped hskip]
    exact h
  by_cases hup : segment = ".."
  · subst hup
    unfold foldSegment
    rw [if_neg hskip, if_pos rfl]
    cases stack with
    | nil =>
      cases absolute with
      | true => exact folded_nil true
      | false => exact ⟨rfl, folded_nil false⟩
    | cons top rest =>
      by_cases htop : top = ".."
      · subst htop
        cases absolute with
        | true => exact h
        | false => exact ⟨rfl, h⟩
      · simp only [ne_eq, htop, not_false_eq_true, if_true]
        exact h.2
  · rw [foldSegment_pushed hskip hup]
    exact ⟨foldSegment_pushed hskip hup, h⟩

theorem folded_foldl (segments : List String) (h : Folded absolute stack) :
    Folded absolute (segments.foldl (foldSegment absolute) stack) := by
  induction segments generalizing stack with
  | nil => exact h
  | cons segment rest ih => exact ih (folded_foldSegment h segment)

theorem Folded.foldl_reverse (h : Folded absolute stack) :
    stack.reverse.foldl (foldSegment absolute) [] = stack := by
  induction stack with
  | nil => rfl
  | cons s rest ih => rw [List.reverse_cons, List.foldl_append, ih h.2, List.foldl_cons, List.foldl_nil, h.1]

theorem Folded.ne_empty (h : Folded absolute stack) (hs : s ∈ stack) : s ≠ "" := by
  induction stack with
  | nil => cases hs
  | cons t rest ih =>
    rcases List.mem_cons.mp hs with rfl | hs
    · rintro rfl
      have hlength := congrArg List.length ((foldSegment_skipped (.inl rfl)).symm.trans h.1)
      rw [List.length_cons] at hlength
      omega
    · exact ih h.2 hs

theorem foldSegments_foldSegments (absolute : Bool) (segments : List String) :
    foldSegments absolute (foldSegments absolute segments) = foldSegments absolute segments := by
  rw [foldSegments, foldSegments, (folded_foldl segments (folded_nil absolute)).foldl_reverse]

theorem ne_empty_of_mem_foldSegments {segments : List String} (hs : s ∈ foldSegments absolute segments) : s ≠ "" :=
  (folded_foldl segments (folded_nil absolute)).ne_empty (List.mem_reverse.mp hs)

/-- A segment holds no slash of either kind. -/
theorem notMem_slash_of_mem_segments (hs : s ∈ segments path) : '/' ∉ s.toList ∧ '\\' ∉ s.toList := by
  obtain ⟨piece, hpiece, rfl⟩ := List.mem_map.mp hs
  rw [String.toList_ofList]
  refine ⟨Text.notMem_of_mem_splitChars hpiece, fun hmem => ?_⟩
  have hslashed := Text.mem_of_mem_splitChars hpiece hmem
  rw [String.toList_ofList, List.mem_map] at hslashed
  obtain ⟨x, -, hx⟩ := hslashed
  split at hx
  · cases hx
  · rename_i hne
    exact hne hx

/-- Segments are read back from the path that is made of them. -/
theorem segments_join {parts : List String} (hne : parts ≠ [])
    (h : ∀ s ∈ parts, '/' ∉ s.toList ∧ '\\' ∉ s.toList) : segments (Text.join "/" parts) = parts := by
  have hslash : '\\' ∉ (Text.join "/" parts).toList := Text.notMem_join (by decide) fun s hs => (h s hs).2
  have hkept : (Text.join "/" parts).toList.map (fun c => if c = '\\' then '/' else c) =
      (Text.join "/" parts).toList := by
    refine (List.map_congr_left fun c hc => if_neg ?_).trans (List.map_id _)
    rintro rfl
    exact hslash hc
  rw [segments, hkept, String.ofList_toList]
  exact Text.splitOn_join hne fun s hs => (h s hs).1

theorem segments_slash (s : String) : segments ("/" ++ s) = "" :: segments s := by
  have hchars : ("/" ++ s).toList = '/' :: s.toList := by simp
  rw [segments, hchars, List.map_cons, Text.splitOn, String.toList_ofList, Text.splitChars, if_pos (ite_self _),
    List.map_cons, segments, Text.splitOn, String.toList_ofList]

theorem isAbsolute_slash (s : String) : isAbsolute ("/" ++ s) = true := by simp [isAbsolute]

/-- A path that is made of segments does not begin with a slash. -/
theorem isAbsolute_join {parts : List String} (hne : ∀ s ∈ parts, s ≠ "")
    (h : ∀ s ∈ parts, '/' ∉ s.toList ∧ '\\' ∉ s.toList) : isAbsolute (Text.join "/" parts) = false := by
  cases parts with
  | nil => rfl
  | cons s rest =>
    obtain ⟨hslash, hback⟩ := h s List.mem_cons_self
    have hchars : ∃ c cs, s.toList = c :: cs := by
      refine List.exists_cons_of_ne_nil fun hnil => hne s List.mem_cons_self ?_
      exact String.toList_eq_nil_iff.mp hnil
    obtain ⟨c, cs, hs⟩ := hchars
    have hhead : (Text.join "/" (s :: rest)).toList.head? = some c := by
      cases rest with
      | nil => simp [Text.join, hs]
      | cons t rest => simp [Text.join, String.intercalate_cons_cons, hs]
    rw [hs, List.mem_cons, not_or] at hslash hback
    rw [isAbsolute, hhead]
    simp [Ne.symm hslash.1, Ne.symm hback.1]

/-- The normal form of a path is its own normal form. -/
theorem normalize_normalize (path : String) : normalize (normalize path) = normalize path := by
  let folded := foldSegments (isAbsolute path) (segments path)
  have hslash : ∀ s ∈ folded, '/' ∉ s.toList ∧ '\\' ∉ s.toList :=
    fun s hs => notMem_slash_of_mem_segments (foldSegments_subset _ _ hs)
  have hread : foldSegments (isAbsolute path) (segments (Text.join "/" folded)) = folded := by
    cases hfolded : folded with
    | nil =>
      have hempty : segments (Text.join "/" []) = [""] := rfl
      rw [hempty, foldSegments, List.foldl_cons, foldSegment_skipped (.inl rfl)]
      rfl
    | cons s rest =>
      rw [← hfolded, segments_join (by rw [hfolded]; exact List.cons_ne_nil s rest) hslash]
      exact foldSegments_foldSegments _ _
  cases habsolute : isAbsolute path with
  | true =>
    have hnormal : normalize path = "/" ++ Text.join "/" folded := by
      rw [normalize, habsolute]
      simp only [folded, habsolute, if_true]
    rw [hnormal, normalize, isAbsolute_slash, segments_slash]
    rw [habsolute] at hread
    have hskip : foldSegments true ("" :: segments (Text.join "/" folded)) = folded := by
      rw [foldSegments, List.foldl_cons, foldSegment_skipped (.inl rfl)]
      exact hread
    rw [hskip, if_pos rfl]
  | false =>
    have hnormal : normalize path = Text.join "/" folded := by
      rw [normalize, habsolute]
      simp only [folded, habsolute, Bool.false_eq_true, if_false]
    rw [habsolute] at hread
    rw [hnormal, normalize, isAbsolute_join (fun s hs => ne_empty_of_mem_foldSegments hs) hslash, hread,
      if_neg Bool.false_ne_true]

end NormalForm

end Path
end CodeAudit
