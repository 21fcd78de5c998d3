import CodeAudit.Proofs.Path

/-! Places in a tree of files, told by the names that lead to them. A path in normal form is a place
written out, so that directories, steps to other places and last names can be had from the names where
the program cuts and joins texts. -/
namespace CodeAudit

namespace Text

variable {c : Char} {cs a b : Chars}

theorem cutChars?_of_notMem (h : c ∉ cs) : cutChars? [c] cs = none := by
  induction cs with
  | nil => rfl
  | cons x rest ih =>
    obtain ⟨hx, hrest⟩ := not_or.mp (mt List.mem_cons.mpr h)
    rw [cutChars?, dropHead?, if_neg hx, ih hrest]
    rfl

theorem cutChars?_append (h : c ∉ a) : cutChars? [c] (a ++ c :: b) = some (a, b) := by
  induction a with
  | nil => simp [cutChars?, dropHead?]
  | cons x a ih =>
    obtain ⟨hx, ha⟩ := not_or.mp (mt List.mem_cons.mpr h)
    rw [List.cons_append, cutChars?, dropHead?, if_neg hx, ih ha]
    rfl

section

variable {s part before after : String}

theorem cutLast?_of_notMem (hpart : part.toList = [c]) (h : c ∉ s.toList) : cutLast? s part = none := by
  rw [cutLast?, hpart, List.reverse_singleton, cutChars?_of_notMem (by simpa using h)]
  rfl

/-- A text is cut at a character behind which it does not occur again. -/
theorem cutLast?_append (hpart : part.toList = [c]) (h : c ∉ after.toList) :
    cutLast? (before ++ part ++ after) part = some (before, after) := by
  have hchars : (before ++ part ++ after).toList.reverse =
      after.toList.reverse ++ c :: before.toList.reverse := by
    simp [hpart]
  rw [cutLast?, hchars, hpart, List.reverse_singleton, cutChars?_append (by simpa using h)]
  simp

theorem exists_last (hpart : part.toList = [c]) (h : c ∈ s.toList) :
    ∃ before after : String, s = before ++ part ++ after ∧ c ∉ after.toList := by
  obtain ⟨tail, head, hsplit, htail⟩ := List.eq_append_cons_of_mem (List.mem_reverse.mpr h)
  refine ⟨.ofList head.reverse, .ofList tail.reverse, ?_, by simpa using htail⟩
  apply String.toList_injective
  rw [← List.reverse_reverse s.toList, hsplit]
  simp [hpart]

theorem cutLast?_eq_some_iff (hpart : part.toList = [c]) :
    cutLast? s part = some (before, after) ↔ s = before ++ part ++ after ∧ c ∉ after.toList := by
  constructor
  · intro hcut
    have hs := append_of_cutLast? hcut
    have hc : c ∈ s.toList := by simp [← hs, hpart]
    obtain ⟨before', after', rfl, hafter⟩ := exists_last hpart hc
    rw [cutLast?_append hpart hafter] at hcut
    cases hcut
    exact ⟨rfl, hafter⟩
  · rintro ⟨rfl, hafter⟩
    exact cutLast?_append hpart hafter

end

theorem join_concat {sep : String} {parts : List String} (hne : parts ≠ []) (s : String) :
    join sep (parts ++ [s]) = join sep parts ++ sep ++ s := by
  induction parts with
  | nil => exact absurd rfl hne
  | cons t rest ih =>
    cases rest with
    | nil => simp [join, String.intercalate_cons_cons]
    | cons u rest =>
      have htail : String.intercalate sep (u :: (rest ++ [s])) = String.intercalate sep (u :: rest) ++ sep ++ s :=
        ih (List.cons_ne_nil u rest)
      rw [join, join, List.cons_append, List.cons_append, String.intercalate_cons_cons,
        String.intercalate_cons_cons, htail]
      simp only [String.append_assoc]

end Text

namespace Path

/-- Names that lead to a place, written out from the root of the file system or from the top of the
project. -/
def written (absolute : Bool) (names : List String) : String :=
  if absolute then "/" ++ Text.join "/" names else Text.join "/" names

/-- A name that holds no slash of either kind. -/
def IsPlain (name : String) : Prop := '/' ∉ name.toList ∧ '\\' ∉ name.toList

section Written

variable {absolute : Bool} {names : List String} {name x y : String}

@[simp]
theorem written_true (names : List String) : written true names = "/" ++ Text.join "/" names := rfl

@[simp]
theorem written_false (names : List String) : written false names = Text.join "/" names := rfl

theorem written_concat (hne : names ≠ []) (name : String) :
    written absolute (names ++ [name]) = written absolute names ++ "/" ++ name := by
  cases absolute <;> simp [Text.join_concat hne, String.append_assoc]

/-- What stands before the last slash when a name is written behind others; there may be no slash. -/
def lead? (absolute : Bool) (names : List String) : Option String :=
  if names ≠ [] then some (written absolute names) else if absolute then some "" else none

theorem written_lead (absolute : Bool) (names : List String) (name : String) :
    written absolute (names ++ [name]) = (lead? absolute names).elim name (· ++ "/" ++ name) := by
  by_cases hne : names = []
  · subst hne
    cases absolute <;> simp [lead?, Text.join]
  · rw [written_concat hne, lead?, if_pos hne, Option.elim_some]

/-- The directory and the last name of what is written out. -/
theorem splitName_written (hname : IsPlain name) :
    splitName (written absolute (names ++ [name])) = (lead? absolute names, name) := by
  rw [written_lead, splitName]
  cases lead? absolute names with
  | none => rw [Option.elim_none, Text.cutLast?_of_notMem rfl hname.1]
  | some dir => rw [Option.elim_some, Text.cutLast?_append rfl hname.1]

theorem directory_written (hplain : ∀ s ∈ names, IsPlain s) :
    directory (written absolute names) = if names.dropLast = [] then "" else written absolute names.dropLast := by
  rcases List.eq_nil_or_concat names with rfl | ⟨init, name, rfl⟩
  · cases absolute <;> rfl
  · have hname : IsPlain name := hplain name (by simp)
    rw [directory, List.concat_eq_append, splitName_written hname, List.dropLast_concat, lead?]
    by_cases hinit : init = []
    · subst hinit
      cases absolute <;> rfl
    · simp [hinit]

theorem isAbsolute_written (hne : ∀ s ∈ names, s ≠ "") (hplain : ∀ s ∈ names, IsPlain s) :
    isAbsolute (written absolute names) = absolute := by
  cases absolute with
  | true => rw [written_true, isAbsolute_slash]
  | false => rw [written_false, isAbsolute_join hne hplain]

theorem segments_written (hplain : ∀ s ∈ names, IsPlain s) (hne : names ≠ []) :
    segments (written absolute names) = (if absolute then [""] else []) ++ names := by
  cases absolute with
  | true => rw [written_true, segments_slash, segments_join hne hplain, if_pos rfl, List.singleton_append]
  | false => rw [written_false, segments_join hne hplain, if_neg Bool.false_ne_true, List.nil_append]

/-- The segments of two texts with a slash between them. -/
theorem segments_append_slash (x y : String) : segments (x ++ "/" ++ y) = segments x ++ segments y := by
  have hchars : ((x ++ "/" ++ y).toList.map fun c => if c = '\\' then '/' else c) =
      (x.toList.map fun c => if c = '\\' then '/' else c) ++
        '/' :: y.toList.map fun c => if c = '\\' then '/' else c := by simp
  simp only [segments, hchars, Text.splitOn, String.toList_ofList, Text.splitChars_append_sep, List.map_append]

theorem isAbsolute_append (hx : x ≠ "") (y : String) : isAbsolute (x ++ y) = isAbsolute x := by
  obtain ⟨c, cs, hchars⟩ : ∃ c cs, x.toList = c :: cs :=
    List.exists_cons_of_ne_nil fun hnil => hx (String.toList_eq_nil_iff.mp hnil)
  simp [isAbsolute, hchars]

end Written

/-- Names that stay as they are when they are folded. -/
theorem folded_reverse_iff {absolute : Bool} {names : List String} :
    Folded absolute names.reverse ↔ foldSegments absolute names = names := by
  constructor
  · intro h
    have hread := h.foldl_reverse
    rw [List.reverse_reverse] at hread
    rw [foldSegments, hread, List.reverse_reverse]
  · intro h
    have hfolded := folded_foldl names (folded_nil absolute)
    have hstack : names.foldl (foldSegment absolute) [] = names.reverse := by
      rw [← List.reverse_inj, ← foldSegments, h, List.reverse_reverse]
    rwa [hstack] at hfolded

/-- A place in a tree of files, counted from the root of the file system or from the top of the
project. Its names are folded and plain, so that they can be read back from the path. -/
structure Place where
  isAbsolute : Bool
  names : List String
  folded : foldSegments isAbsolute names = names
  plain : ∀ s ∈ names, IsPlain s

/-- The place that a path denotes. -/
def placeOf (path : String) : Place where
  isAbsolute := isAbsolute path
  names := foldSegments (isAbsolute path) (segments path)
  folded := foldSegments_foldSegments _ _
  plain := fun _ hs => notMem_slash_of_mem_segments (foldSegments_subset _ _ hs)

namespace Place

/-- The top of the project. -/
def here : Place := ⟨false, [], rfl, by simp⟩

/-- The root of the file system. -/
def root : Place := ⟨true, [], rfl, by simp⟩

def path (p : Place) : String := written p.isAbsolute p.names

theorem foldSegments_dropLast (p : Place) : foldSegments p.isAbsolute p.names.dropLast = p.names.dropLast := by
  have h := folded_reverse_iff.mpr p.folded
  rw [← folded_reverse_iff, ← List.tail_reverse]
  cases hstack : p.names.reverse with
  | nil => exact folded_nil _
  | cons s rest =>
    rw [hstack] at h
    exact h.2

/-- The directory that a place lies in; a root lies in itself. -/
def directory (p : Place) : Place where
  isAbsolute := p.isAbsolute
  names := p.names.dropLast
  folded := p.foldSegments_dropLast
  plain := fun s hs => p.plain s (List.dropLast_subset _ hs)

theorem foldSegments_steps (p : Place) (steps : List String) :
    foldSegments p.isAbsolute (steps.foldl (foldSegment p.isAbsolute) p.names.reverse).reverse =
      (steps.foldl (foldSegment p.isAbsolute) p.names.reverse).reverse := by
  have h := folded_foldl steps (folded_reverse_iff.mpr p.folded)
  rw [← folded_reverse_iff, List.reverse_reverse]
  exact h

/-- The place that a relative path leads to from a place. -/
def follow (p : Place) (path : String) : Place where
  isAbsolute := p.isAbsolute
  names := ((segments path).foldl (foldSegment p.isAbsolute) p.names.reverse).reverse
  folded := p.foldSegments_steps _
  plain := by
    intro s hs
    rw [List.mem_reverse] at hs
    rcases mem_of_mem_foldl_foldSegment hs with hs | hs
    · exact p.plain s (List.mem_reverse.mp hs)
    · exact notMem_slash_of_mem_segments hs

/-- The path of an entry with the given name in a place. -/
def inside (p : Place) (name : String) : String := written p.isAbsolute (p.names ++ [name])

variable {p q : Place} {s : String}

theorem ext_names (habsolute : p.isAbsolute = q.isAbsolute) (hnames : p.names = q.names) : p = q := by
  cases p
  cases q
  cases habsolute
  cases hnames
  rfl

theorem ne_empty (p : Place) (hs : s ∈ p.names) : s ≠ "" := by
  rw [← p.folded] at hs
  exact ne_empty_of_mem_foldSegments hs

theorem isAbsolute_path (p : Place) : Path.isAbsolute p.path = p.isAbsolute :=
  isAbsolute_written (fun _ hs => p.ne_empty hs) p.plain

theorem path_ne_empty (h : p.names ≠ []) : p.path ≠ "" := by
  intro hempty
  obtain ⟨s, rest, hnames⟩ := List.exists_cons_of_ne_nil h
  have hs : s ≠ "" := p.ne_empty (by simp [hnames])
  have hchars : p.path.toList = [] := by rw [hempty]; rfl
  cases habsolute : p.isAbsolute with
  | true => simp [path, habsolute] at hchars
  | false =>
    cases rest with
    | nil => simp_all [path, Text.join]
    | cons t rest => simp_all [path, Text.join, String.intercalate_cons_cons]

/-- The path of a place is its normal form. -/
theorem path_placeOf (path : String) : (placeOf path).path = normalize path := by
  rw [Place.path, written, placeOf, normalize]

/-- A place is the one that its path denotes. -/
theorem placeOf_path (p : Place) : placeOf p.path = p := by
  refine ext_names p.isAbsolute_path ?_
  have hnames : foldSegments p.isAbsolute (segments p.path) = p.names := by
    by_cases h : p.names = []
    · rw [path, h]
      cases p.isAbsolute <;> rfl
    · rw [path, segments_written p.plain h, foldSegments, List.foldl_append]
      split
      · rw [List.foldl_cons, foldSegment_skipped (.inl rfl), List.foldl_nil, ← foldSegments, p.folded]
      · rw [List.foldl_nil, ← foldSegments, p.folded]
  simp only [placeOf, p.isAbsolute_path, hnames]

theorem normalize_path (p : Place) : normalize p.path = p.path := by
  rw [← path_placeOf, placeOf_path]

theorem directory_path (p : Place) :
    Path.directory p.path = if p.directory.names = [] then "" else p.directory.path :=
  directory_written p.plain

/-- A relative path behind a path leads to where it leads from the place of that path. -/
theorem normalize_append (h : p.names ≠ []) (text : String) :
    normalize (p.path ++ "/" ++ text) = (p.follow text).path := by
  have habsolute : Path.isAbsolute (p.path ++ "/" ++ text) = p.isAbsolute := by
    rw [String.append_assoc, isAbsolute_append (path_ne_empty h), p.isAbsolute_path]
  have hsegments : segments (p.path ++ "/" ++ text) =
      (if p.isAbsolute then [""] else []) ++ p.names ++ segments text := by
    rw [segments_append_slash, path, segments_written p.plain h]
  have hnames : p.names.foldl (foldSegment p.isAbsolute) [] = p.names.reverse := by
    rw [← List.reverse_inj, ← foldSegments, p.folded, List.reverse_reverse]
  have hfold : (segments (p.path ++ "/" ++ text)).foldl (foldSegment p.isAbsolute) [] =
      (segments text).foldl (foldSegment p.isAbsolute) p.names.reverse := by
    rw [hsegments, List.foldl_append, List.foldl_append]
    split
    · rw [List.foldl_cons, foldSegment_skipped (.inl rfl), List.foldl_nil, hnames]
    · rw [List.foldl_nil, hnames]
  rw [normalize, habsolute, foldSegments, hfold, Place.path, written, follow]

theorem normalize_relative {text : String} (h : Path.isAbsolute text = false) :
    normalize text = (here.follow text).path := by
  simp only [normalize, h, foldSegments, Bool.false_eq_true, if_false, Place.path, follow, here, written_false,
    List.reverse_nil]

end Place

end Path
end CodeAudit
