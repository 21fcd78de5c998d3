import CodeAudit.Proofs.Path.Place
import Mathlib.Data.List.Induction

/-! Paths in normal form, told by what is written in them. A path and its normal form lead to the same
place from everywhere, and the normal form of a path that is put together depends on the normal forms of
its parts only. Both follow from one fact: whoever goes along segments and takes a name back at the step
upwards behind it ends where he ends along the folded segments. -/
namespace CodeAudit.Path

/-- Steps upwards stand in front of all names, and an absolute path has none. -/
def ClimbsFirst (absolute : Bool) (names : List String) : Prop :=
  ∃ climbs below, names = List.replicate climbs ".." ++ below ∧ ".." ∉ below ∧ (absolute = true → climbs = 0)

/-- Plain names with one slash between them, and one in front if the path is absolute. None of them is
empty or a dot. -/
def IsNormal (path : String) : Prop :=
  ∃ absolute names, path = written absolute names ∧ (∀ s ∈ names, IsPlain s) ∧ "" ∉ names ∧ "." ∉ names ∧
    ClimbsFirst absolute names

/-- One step from a directory, which is given by the names that lead to it, the innermost first. The root
of the file system lies in itself. -/
def walkStep (names : List String) (segment : String) : List String :=
  if segment = "" ∨ segment = "." then names else if segment = ".." then names.tail else segment :: names

/-- Where a path leads to from a directory. -/
def destination (base : List String) (path : String) : List String :=
  (segments path).foldl walkStep (if isAbsolute path then [] else base)

section Folding

variable {absolute : Bool} {stack names : List String} {segment top : String}

theorem foldSegment_up_nil : foldSegment absolute [] ".." = if absolute then [] else [".."] := rfl

theorem foldSegment_up_named (htop : top ≠ "..") : foldSegment absolute (top :: stack) ".." = stack := by
  simp [foldSegment, htop]

theorem foldSegment_up_up :
    foldSegment absolute (".." :: stack) ".." = if absolute then ".." :: stack else ".." :: ".." :: stack := by
  simp [foldSegment]

/-- What a stack of folded segments can have on top. -/
theorem Folded.top_cases (h : Folded absolute (segment :: stack)) :
    segment ≠ "" ∧ segment ≠ "." ∧ (segment = ".." → absolute = false ∧ ∀ s ∈ stack.head?, s = "..") := by
  have hskip : ¬(segment = "" ∨ segment = ".") := by
    intro hskip
    have hlength := congrArg List.length ((foldSegment_skipped hskip).symm.trans h.1)
    rw [List.length_cons] at hlength
    omega
  obtain ⟨hempty, hdot⟩ := not_or.mp hskip
  refine ⟨hempty, hdot, ?_⟩
  rintro rfl
  have htop := h.1
  cases stack with
  | nil =>
    rw [foldSegment_up_nil] at htop
    cases absolute <;> simp_all
  | cons top rest =>
    by_cases hup : top = ".."
    · subst hup
      rw [foldSegment_up_up] at htop
      cases absolute <;> simp_all
    · rw [foldSegment_up_named hup] at htop
      have hlength := congrArg List.length htop
      simp only [List.length_cons] at hlength
      omega

theorem ClimbsFirst.concat (h : ClimbsFirst absolute names) (hup : segment ≠ "..") :
    ClimbsFirst absolute (names ++ [segment]) := by
  obtain ⟨climbs, below, rfl, hbelow, habsolute⟩ := h
  refine ⟨climbs, below ++ [segment], List.append_assoc _ _ _, ?_, habsolute⟩
  simpa [hbelow] using Ne.symm hup

/-- Another step upwards fits behind names only if all of them are steps upwards. -/
theorem ClimbsFirst.concat_climb (h : ClimbsFirst false names) (hlast : ∀ s ∈ names.getLast?, s = "..") :
    ClimbsFirst false (names ++ [".."]) := by
  obtain ⟨climbs, below, rfl, hbelow, -⟩ := h
  rcases List.eq_nil_or_concat below with rfl | ⟨init, last, rfl⟩
  · exact ⟨climbs + 1, [], by simp [List.replicate_succ'], by simp, by simp⟩
  · have heq : last = ".." := hlast last (by simp)
    simp [heq] at hbelow

theorem Folded.climbsFirst (h : Folded absolute stack) : ClimbsFirst absolute stack.reverse := by
  induction stack with
  | nil => exact ⟨0, [], rfl, List.not_mem_nil, fun _ => rfl⟩
  | cons segment rest ih =>
    rw [List.reverse_cons]
    obtain ⟨-, -, hclimb⟩ := h.top_cases
    by_cases hup : segment = ".."
    · obtain ⟨rfl, hhead⟩ := hclimb hup
      subst hup
      exact (ih h.2).concat_climb (by simpa using hhead)
    · exact (ih h.2).concat hup

theorem Folded.notMem_skipped (h : Folded absolute stack) : "" ∉ stack ∧ "." ∉ stack := by
  induction stack with
  | nil => simp
  | cons segment rest ih =>
    obtain ⟨hempty, hdot, -⟩ := h.top_cases
    obtain ⟨hempties, hdots⟩ := ih h.2
    exact ⟨by simp [hempties, Ne.symm hempty], by simp [hdots, Ne.symm hdot]⟩

theorem foldl_climbs (climbs : Nat) :
    (List.replicate climbs "..").foldl (foldSegment false) [] = List.replicate climbs ".." := by
  induction climbs with
  | zero => rfl
  | succ n ih =>
    rw [List.replicate_succ', List.foldl_append, ih, ← List.replicate_succ', List.replicate_succ]
    cases n <;> rfl

theorem foldl_named (hempty : "" ∉ names) (hdot : "." ∉ names) (hup : ".." ∉ names) :
    names.foldl (foldSegment absolute) stack = names.reverse ++ stack := by
  induction names generalizing stack with
  | nil => rfl
  | cons s rest ih =>
    simp only [List.mem_cons, not_or] at hempty hdot hup
    have hpushed : foldSegment absolute stack s = s :: stack :=
      foldSegment_pushed (not_or.mpr ⟨Ne.symm hempty.1, Ne.symm hdot.1⟩) (Ne.symm hup.1)
    rw [List.foldl_cons, hpushed, ih hempty.2 hdot.2 hup.2, List.reverse_cons, List.append_assoc,
      List.singleton_append]

/-- Names in normal form are folded. -/
theorem ClimbsFirst.foldSegments_eq (h : ClimbsFirst absolute names) (hempty : "" ∉ names) (hdot : "." ∉ names) :
    foldSegments absolute names = names := by
  obtain ⟨climbs, below, rfl, hbelow, habsolute⟩ := h
  rw [List.mem_append, not_or] at hempty hdot
  have hclimbs : (List.replicate climbs "..").foldl (foldSegment absolute) [] = List.replicate climbs ".." := by
    cases absolute with
    | true => rw [habsolute rfl]; rfl
    | false => exact foldl_climbs climbs
  rw [foldSegments, List.foldl_append, hclimbs, foldl_named hempty.2 hdot.2 hbelow]
  simp

/-- Going along the folded segments. A name is taken back by the step upwards behind it, and at the root
the step upwards leads nowhere. -/
theorem foldl_foldSegments {σ : Type} {go : σ → String → σ} {x : σ}
    (hskip : ∀ y s, s = "" ∨ s = "." → go y s = y)
    (hback : ∀ y s, s ≠ "" → s ≠ "." → s ≠ ".." → go (go y s) ".." = y)
    (hroot : absolute = true → go x ".." = x) (segments : List String) :
    (foldSegments absolute segments).foldl go x = segments.foldl go x := by
  induction segments using List.reverseRecOn with
  | nil => rfl
  | append_singleton segments s ih =>
    have hfolded := folded_foldl segments (folded_nil absolute)
    rw [foldSegments] at ih ⊢
    rw [List.foldl_append, List.foldl_append, List.foldl_cons, List.foldl_nil, List.foldl_cons, List.foldl_nil,
      ← ih]
    generalize segments.foldl (foldSegment absolute) [] = stack at hfolded
    by_cases hs : s = "" ∨ s = "."
    · rw [foldSegment_skipped hs, hskip _ s hs]
    by_cases hup : s = ".."
    case neg =>
      rw [foldSegment_pushed hs hup, List.reverse_cons, List.foldl_append, List.foldl_cons, List.foldl_nil]
    subst hup
    cases stack with
    | nil =>
      rw [foldSegment_up_nil]
      cases absolute with
      | true => exact (hroot rfl).symm
      | false => rfl
    | cons top rest =>
      obtain ⟨hempty, hdot, hclimb⟩ := hfolded.top_cases
      rw [List.reverse_cons, List.foldl_append, List.foldl_cons, List.foldl_nil]
      by_cases htop : top = ".."
      · -- Steps upwards on top of each other are kept, which happens in relative paths only.
        obtain ⟨rfl, -⟩ := hclimb htop
        subst htop
        rw [foldSegment_up_up]
        simp
      · rw [foldSegment_up_named htop, hback _ top hempty hdot htop]

end Folding

variable {path d r : String}

theorem isAbsolute_placeOf (path : String) : (placeOf path).isAbsolute = isAbsolute path := by rw [placeOf]

theorem names_placeOf (path : String) : (placeOf path).names = foldSegments (isAbsolute path) (segments path) := by
  rw [placeOf]

theorem isAbsolute_follow (p : Place) (path : String) : (p.follow path).isAbsolute = p.isAbsolute := by
  rw [Place.follow]

theorem names_follow (p : Place) (path : String) :
    (p.follow path).names = ((segments path).foldl (foldSegment p.isAbsolute) p.names.reverse).reverse := by
  rw [Place.follow]

/-- The path of a place is in normal form. -/
theorem Place.isNormal_path (p : Place) : IsNormal p.path := by
  have hfolded : Folded p.isAbsolute p.names.reverse := folded_reverse_iff.mpr p.folded
  obtain ⟨hempty, hdot⟩ := hfolded.notMem_skipped
  rw [List.mem_reverse] at hempty hdot
  have hclimbs := hfolded.climbsFirst
  rw [List.reverse_reverse] at hclimbs
  exact ⟨p.isAbsolute, p.names, rfl, p.plain, hempty, hdot, hclimbs⟩

theorem isNormal_normalize (path : String) : IsNormal (normalize path) := by
  rw [← Place.path_placeOf]
  exact (placeOf path).isNormal_path

theorem IsNormal.normalize_eq (h : IsNormal path) : normalize path = path := by
  obtain ⟨absolute, names, rfl, hplain, hempty, hdot, hclimbs⟩ := h
  exact (Place.mk absolute names (hclimbs.foldSegments_eq hempty hdot) hplain).normalize_path

theorem placeOf_normalize (path : String) : placeOf (normalize path) = placeOf path := by
  rw [← Place.path_placeOf, Place.placeOf_path]

theorem isAbsolute_normalize (path : String) : isAbsolute (normalize path) = isAbsolute path := by
  rw [← isAbsolute_placeOf, placeOf_normalize, isAbsolute_placeOf]

theorem isAbsolute_iff : isAbsolute path = true ↔ path.toList.head? = some '/' ∨ path.toList.head? = some '\\' := by
  simp [isAbsolute]

theorem backslash_notMem_normalize (path : String) : '\\' ∉ (normalize path).toList := by
  have hnames : '\\' ∉ (Text.join "/" (placeOf path).names).toList :=
    Text.notMem_join (by decide) fun s hs => ((placeOf path).plain s hs).2
  rw [← Place.path_placeOf, Place.path, written]
  split
  · simpa using hnames
  · exact hnames

/-- Going along the segments of a normal form is going along the folded segments. -/
theorem foldl_segments_normalize {σ : Type} {go : σ → String → σ} (hskip : ∀ y s, s = "" ∨ s = "." → go y s = y)
    (path : String) (x : σ) :
    (segments (normalize path)).foldl go x = (foldSegments (isAbsolute path) (segments path)).foldl go x := by
  rw [← Place.path_placeOf, Place.path, ← names_placeOf]
  by_cases hnames : (placeOf path).names = []
  · -- The segments of a normal form without names are empty pieces around the slash, if there is one.
    have hempty : go x "" = x := hskip x "" (.inl rfl)
    rw [hnames]
    cases (placeOf path).isAbsolute with
    | true =>
      have hroot : segments (written true []) = ["", ""] := rfl
      rw [hroot, List.foldl_cons, hempty, List.foldl_cons, hempty, List.foldl_nil]
    | false =>
      have htop : segments (written false []) = [""] := rfl
      rw [htop, List.foldl_cons, hempty, List.foldl_nil]
  · rw [segments_written (placeOf path).plain hnames, List.foldl_append]
    split
    · rw [List.foldl_cons, hskip x "" (.inl rfl), List.foldl_nil]
    · rw [List.foldl_nil]

theorem walkStep_skipped {names : List String} {s : String} (h : s = "" ∨ s = ".") : walkStep names s = names :=
  if_pos h

theorem walkStep_back {names : List String} {s : String} (hempty : s ≠ "") (hdot : s ≠ ".") (hup : s ≠ "..") :
    walkStep (walkStep names s) ".." = names := by
  simp [walkStep, hempty, hdot, hup]

/-- A path and its normal form lead to the same place. -/
theorem destination_normalize (base : List String) (path : String) :
    destination base (normalize path) = destination base path := by
  have hroot : isAbsolute path = true →
      walkStep (if isAbsolute path then [] else base) ".." = if isAbsolute path then [] else base := by
    intro habsolute
    rw [if_pos habsolute]
    rfl
  rw [destination, foldl_segments_normalize fun _ _ => walkStep_skipped, isAbsolute_normalize,
    foldl_foldSegments (fun _ _ => walkStep_skipped) (fun _ _ => walkStep_back) hroot, destination]

theorem normalize_append_slash (hd : d ≠ "") (r : String) :
    normalize (d ++ "/" ++ r) = ((placeOf d).follow r).path := by
  have habsolute : isAbsolute (d ++ "/" ++ r) = isAbsolute d := by rw [String.append_assoc, isAbsolute_append hd]
  have hstack : (placeOf d).names.reverse = (segments d).foldl (foldSegment (isAbsolute d)) [] := by
    rw [names_placeOf, foldSegments, List.reverse_reverse]
  rw [normalize, habsolute, segments_append_slash, foldSegments, List.foldl_append, Place.path, names_follow,
    isAbsolute_follow, hstack, isAbsolute_placeOf, written]

theorem follow_normalize (p : Place) (hr : isAbsolute r = false) : p.follow (normalize r) = p.follow r := by
  refine Place.ext_names (by rw [isAbsolute_follow, isAbsolute_follow]) ?_
  have hskip : ∀ stack s, s = "" ∨ s = "." → foldSegment p.isAbsolute stack s = stack :=
    fun _ _ => foldSegment_skipped
  have hback : ∀ stack s, s ≠ "" → s ≠ "." → s ≠ ".." →
      foldSegment p.isAbsolute (foldSegment p.isAbsolute stack s) ".." = stack := by
    intro stack s hempty hdot hup
    rw [foldSegment_pushed (not_or.mpr ⟨hempty, hdot⟩) hup, foldSegment_up_named hup]
  have hfolded : (foldSegments false (segments r)).foldl (foldSegment p.isAbsolute) p.names.reverse =
      (segments r).foldl (foldSegment p.isAbsolute) p.names.reverse :=
    foldl_foldSegments hskip hback (fun h => absurd h Bool.false_ne_true) (segments r)
  rw [names_follow, names_follow, foldl_segments_normalize hskip, hr, hfolded]

/-- The normal form of a path behind a directory, from the normal forms of the two. -/
theorem normalize_joined_normal (hd : normalize d ≠ "") (hr : isAbsolute r = false) :
    normalize (d ++ "/" ++ r) = normalize (normalize d ++ "/" ++ normalize r) := by
  have hne : d ≠ "" := by
    rintro rfl
    exact hd rfl
  rw [normalize_append_slash hne, normalize_append_slash hd, placeOf_normalize, follow_normalize _ hr]

/-- Every path has a normal form, which has no backslashes, no empty and no dot segments and steps upwards
in front only, is absolute if the path begins with a slash of either kind, and leads to where the path
leads. A path in normal form stays as it is. What is put together from a directory that is not the top of
the project and a relative path has the normal form that their normal forms give. -/
theorem normalize_lawful :
    (∀ p, IsNormal (normalize p) ∧ '\\' ∉ (normalize p).toList ∧
      ((normalize p).toList.head? = some '/' ↔ p.toList.head? = some '/' ∨ p.toList.head? = some '\\') ∧
      normalize (normalize p) = normalize p ∧ ∀ base, destination base (normalize p) = destination base p) ∧
    (∀ p, IsNormal p → normalize p = p) ∧
    ∀ d r, normalize d ≠ "" → isAbsolute r = false →
      normalize (d ++ "/" ++ r) = normalize (normalize d ++ "/" ++ normalize r) := by
  refine ⟨fun p => ⟨isNormal_normalize p, backslash_notMem_normalize p, ?_, normalize_normalize p,
    fun base => destination_normalize base p⟩, fun p hp => hp.normalize_eq,
    fun d r hd hr => normalize_joined_normal hd hr⟩
  rw [← isAbsolute_iff, ← isAbsolute_normalize, isAbsolute_iff]
  refine ⟨.inl, fun hhead => hhead.resolve_right fun hback => ?_⟩
  exact backslash_notMem_normalize p (List.mem_of_mem_head? hback)

/-- A relative path out of a directory that is written with slashes of both kinds, and a path in normal form
with a step upwards. -/
theorem mixed_slashes_lawful :
    (normalize "src\\app/./x" ≠ "" ∧ isAbsolute "..\\../lib/./y/.." = false ∧
      normalize ("src\\app/./x" ++ "/" ++ "..\\../lib/./y/..") =
        normalize (normalize "src\\app/./x" ++ "/" ++ normalize "..\\../lib/./y/..")) ∧
    IsNormal "../lib/a.ts" ∧ normalize "../lib/a.ts" = "../lib/a.ts" := by
  obtain ⟨-, hnormal, hjoined⟩ := normalize_lawful
  have hd : normalize "src\\app/./x" ≠ "" := by decide +kernel
  have hr : isAbsolute "..\\../lib/./y/.." = false := by decide +kernel
  have hpath : IsNormal "../lib/a.ts" :=
    ⟨false, ["..", "lib", "a.ts"], rfl, by simp [IsPlain], by decide, by decide, 1, ["lib", "a.ts"], rfl, by decide,
      fun h => absurd h Bool.false_ne_true⟩
  exact ⟨⟨hd, hr, hjoined _ _ hd hr⟩, hpath, hnormal _ hpath⟩

end CodeAudit.Path
