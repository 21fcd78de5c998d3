import CodeAudit.Language.Detection
import CodeAudit.Proofs.Path.Place

/-! Which files are never analysed, by the pieces between the slashes of a path. The last name on a path is that of the
file, names before it are those of directories; the same list of names is looked up for both. -/
namespace CodeAudit

namespace Path

variable {path name ext s : String} {c : Component}

/-- A piece of a path that names an entry. -/
def IsName (s : String) : Prop := s ≠ "" ∧ s ≠ "." ∧ s ≠ ".."

/-- A piece of a path that stands for nothing. -/
def IsSkipped (s : String) : Prop := s = "" ∨ s = "."

/-- A name on a path with something behind it. -/
def DirectoryOn (path name : String) : Prop :=
  IsName name ∧ ∃ before after, Text.splitOn path '/' = before ++ name :: after ∧ ∃ s ∈ after, ¬ IsSkipped s

/-- A name on a path with nothing behind it. -/
def FileOf (path name : String) : Prop :=
  IsName name ∧ ∃ before after, Text.splitOn path '/' = before ++ name :: after ∧ ∀ s ∈ after, IsSkipped s

/-- A file name is divided at its last dot, if something stands before that. -/
def HasExtension (name ext : String) : Prop := ∃ stem, stem ≠ "" ∧ name = stem ++ "." ++ ext ∧ '.' ∉ ext.toList

theorem component?_eq_none_iff : component? s = none ↔ IsSkipped s := by
  unfold component? IsSkipped
  split
  · simp [*]
  · split <;> simp [*]

theorem component?_eq_normal_iff : component? s = some (.normal name) ↔ s = name ∧ IsName name := by
  unfold component? IsName
  by_cases hskip : s = "" ∨ s = "."
  · rw [if_pos hskip]
    constructor
    · intro h
      cases h
    · rintro ⟨rfl, hempty, hdot, -⟩
      exact absurd hskip (not_or.mpr ⟨hempty, hdot⟩)
  · rw [if_neg hskip]
    obtain ⟨hempty, hdot⟩ := not_or.mp hskip
    by_cases hup : s = ".."
    · rw [if_pos hup]
      constructor
      · intro h
        cases h
      · rintro ⟨rfl, -, -, hne⟩
        exact absurd hup hne
    · rw [if_neg hup, Option.some_inj, Component.normal.injEq]
      constructor
      · rintro rfl
        exact ⟨rfl, hempty, hdot, hup⟩
      · exact And.left

/-- In front of what the pieces stand for there is at most a sign of where the path begins. -/
theorem components_eq (path : String) : ∃ lead : List Component, (∀ name, .normal name ∉ lead) ∧
    components path = lead ++ (Text.splitOn path '/').filterMap component? := by
  have hskipped {first : String} (h : IsSkipped first) (rest : List String) :
      (first :: rest).filterMap component? = rest.filterMap component? :=
    List.filterMap_cons_none (component?_eq_none_iff.mpr h)
  unfold components
  cases hpieces : Text.splitOn path '/' with
  | nil => exact ⟨[], by simp, rfl⟩
  | cons first rest =>
    dsimp only
    by_cases hpath : path = ""
    · subst hpath
      cases hpieces
      exact ⟨[], by simp, rfl⟩
    by_cases hroot : first = ""
    · refine ⟨[.root], by simp, ?_⟩
      rw [if_neg hpath, if_pos hroot, hskipped (.inl hroot)]
    by_cases hcurrent : first = "."
    · refine ⟨[.current], by simp, ?_⟩
      rw [if_neg hpath, if_neg hroot, if_pos hcurrent, hskipped (.inr hcurrent)]
    · refine ⟨[], by simp, ?_⟩
      rw [if_neg hpath, if_neg hroot, if_neg hcurrent, List.nil_append]
      cases hfirst : component? first with
      | none => rw [List.filterMap_cons_none hfirst]; rfl
      | some c => rw [List.filterMap_cons_some hfirst]; rfl

theorem normal_mem_components_iff : .normal name ∈ components path ↔ IsName name ∧ name ∈ Text.splitOn path '/' := by
  obtain ⟨lead, hlead, heq⟩ := components_eq path
  rw [heq, List.mem_append, List.mem_filterMap]
  constructor
  · rintro (hmem | ⟨s, hs, hname⟩)
    · exact absurd hmem (hlead name)
    · obtain ⟨rfl, hname⟩ := component?_eq_normal_iff.mp hname
      exact ⟨hname, hs⟩
  · rintro ⟨hname, hs⟩
    exact .inr ⟨name, hs, component?_eq_normal_iff.mpr ⟨rfl, hname⟩⟩

/-- A name on a path is that of a directory or of the file. -/
theorem mem_splitOn_iff (hname : IsName name) :
    name ∈ Text.splitOn path '/' ↔ DirectoryOn path name ∨ FileOf path name := by
  constructor
  · intro hmem
    obtain ⟨before, after, hsplit⟩ := List.append_of_mem hmem
    by_cases hafter : ∀ s ∈ after, IsSkipped s
    · exact .inr ⟨hname, before, after, hsplit, hafter⟩
    · simp only [not_forall] at hafter
      obtain ⟨s, hs, hnot⟩ := hafter
      exact .inl ⟨hname, before, after, hsplit, s, hs, hnot⟩
  · rintro (⟨-, before, after, hsplit, -⟩ | ⟨-, before, after, hsplit, -⟩) <;> simp [hsplit]

theorem fileName?_eq_some_iff_getLast? :
    fileName? path = some name ↔ (components path).getLast? = some (.normal name) := by
  unfold fileName?
  cases (components path).getLast? with
  | none => simp
  | some c => cases c <;> simp

theorem fileName?_eq_some_iff : fileName? path = some name ↔ FileOf path name := by
  obtain ⟨lead, hlead, heq⟩ := components_eq path
  have hlast : (components path).getLast? = some (.normal name) ↔
      ((Text.splitOn path '/').filterMap component?).getLast? = some (.normal name) := by
    rw [heq, List.getLast?_append]
    cases ((Text.splitOn path '/').filterMap component?).getLast? with
    | none =>
      have hnone : lead.getLast? ≠ some (.normal name) := fun h => hlead name (List.mem_of_getLast? h)
      simpa using hnone
    | some c => simp
  rw [fileName?_eq_some_iff_getLast?, hlast, List.getLast?_filterMap, List.findSome?_eq_some_iff]
  constructor
  · rintro ⟨after, s, before, hreverse, hs, hafter⟩
    obtain ⟨rfl, hname⟩ := component?_eq_normal_iff.mp hs
    refine ⟨hname, before.reverse, after.reverse, ?_, fun x hx => ?_⟩
    · rw [← List.reverse_reverse (Text.splitOn path '/'), hreverse]
      simp
    · exact component?_eq_none_iff.mp (hafter x (List.mem_reverse.mp hx))
  · rintro ⟨hname, before, after, hsplit, hafter⟩
    refine ⟨after.reverse, name, before.reverse, by simp [hsplit], ?_, fun x hx => ?_⟩
    · exact component?_eq_normal_iff.mpr ⟨rfl, hname⟩
    · exact component?_eq_none_iff.mpr (hafter x (List.mem_reverse.mp hx))

theorem divide_eq_some_iff (hname : name ≠ "..") : (divide name).2 = some ext ↔ HasExtension name ext := by
  unfold divide HasExtension
  rw [if_neg hname]
  cases hcut : Text.cutLast? name "." with
  | none =>
    constructor
    · intro h
      cases h
    · rintro ⟨stem, -, hsplit, hext⟩
      rw [(Text.cutLast?_eq_some_iff rfl).mpr ⟨hsplit, hext⟩] at hcut
      cases hcut
  | some parts =>
    obtain ⟨before, after⟩ := parts
    obtain ⟨hsplit, hafter⟩ := (Text.cutLast?_eq_some_iff rfl).mp hcut
    dsimp only
    constructor
    · intro h
      split at h
      · cases h
      · cases h
        exact ⟨before, ‹_›, hsplit, hafter⟩
    · rintro ⟨stem, hstem, hsplit', hext⟩
      rw [(Text.cutLast?_eq_some_iff rfl).mpr ⟨hsplit', hext⟩] at hcut
      cases hcut
      rw [if_neg hstem]

theorem extension?_eq_some_iff : extension? path = some ext ↔ ∃ name, FileOf path name ∧ HasExtension name ext := by
  rw [extension?, Option.bind_eq_some_iff]
  refine exists_congr fun name => ?_
  rw [fileName?_eq_some_iff]
  exact and_congr_right fun hfile => divide_eq_some_iff hfile.1.2.2

end Path

namespace Exclusion

open CodeAudit.Path (DirectoryOn FileOf HasExtension)

/-- What makes a file one that is never analysed: a directory that it lies in, or its own name by which it is a lock
file, a minified bundle or a binary file. -/
def Unwanted (path : String) : Prop :=
  (∃ name ∈ directories, DirectoryOn path name) ∨
    ∃ name, FileOf path name ∧
      (name ∈ lockFiles ∨ Text.endsWith (Text.lowerCase name) ".min.js" = true ∨
        Text.endsWith (Text.lowerCase name) ".min.css" = true ∨
        ∃ ext, HasExtension name ext ∧ Text.lowerCase ext ∈ binaryExtensions)

/-- The file has a name that stands for build output or vendored code where a directory has it. -/
def NamedAsDirectory (path : String) : Prop := ∃ name ∈ directories, FileOf path name

variable {path name : String}

theorem isName_of_mem_directories (h : name ∈ directories) : Path.IsName name := by
  unfold Path.IsName
  revert name
  decide

theorem inExcludedDirectory_iff : inExcludedDirectory path = true ↔
    (∃ name ∈ directories, DirectoryOn path name) ∨ NamedAsDirectory path := by
  have hany : inExcludedDirectory path = true ↔ ∃ name ∈ directories, name ∈ Text.splitOn path '/' := by
    unfold inExcludedDirectory
    rw [List.any_eq_true]
    constructor
    · rintro ⟨c, hc, hlisted⟩
      cases c with
      | normal name =>
        exact ⟨name, List.contains_iff_mem.mp hlisted, (Path.normal_mem_components_iff.mp hc).2⟩
      | _ => cases hlisted
    · rintro ⟨name, hlisted, hmem⟩
      exact ⟨.normal name, Path.normal_mem_components_iff.mpr ⟨isName_of_mem_directories hlisted, hmem⟩,
        List.contains_iff_mem.mpr hlisted⟩
  rw [hany, NamedAsDirectory, ← exists_or]
  refine exists_congr fun name => ?_
  rw [← and_or_left]
  exact and_congr_right fun hlisted => Path.mem_splitOn_iff (isName_of_mem_directories hlisted)

theorem isBinary_iff : binaryExtensions.contains (Path.extension path) = true ↔
    ∃ name, FileOf path name ∧ ∃ ext, HasExtension name ext ∧ Text.lowerCase ext ∈ binaryExtensions := by
  rw [List.contains_iff_mem, Path.extension]
  cases hext : Path.extension? path with
  | none =>
    have hnone : Text.lowerCase ((none : Option String).getD "") ∉ binaryExtensions := by decide
    constructor
    · intro h
      exact absurd h hnone
    · rintro ⟨name, hfile, ext, hname, -⟩
      rw [Path.extension?_eq_some_iff.mpr ⟨name, hfile, hname⟩] at hext
      cases hext
  | some ext =>
    rw [Option.getD_some]
    constructor
    · intro h
      obtain ⟨name, hfile, hname⟩ := Path.extension?_eq_some_iff.mp hext
      exact ⟨name, hfile, ext, hname, h⟩
    · rintro ⟨name, hfile, ext', hname, h⟩
      rw [Path.extension?_eq_some_iff.mpr ⟨name, hfile, hname⟩] at hext
      cases hext
      exact h

/-- A test of the file name that fails for the empty text is a test of files. -/
theorem fileName_test_iff (path : String) {p : String → Prop} (hempty : ¬ p "") :
    p ((Path.fileName? path).getD "") ↔ ∃ name, FileOf path name ∧ p name := by
  cases hname : Path.fileName? path with
  | none =>
    constructor
    · intro h
      exact absurd h hempty
    · rintro ⟨name, hfile, -⟩
      rw [Path.fileName?_eq_some_iff.mpr hfile] at hname
      cases hname
  | some name =>
    constructor
    · intro h
      exact ⟨name, Path.fileName?_eq_some_iff.mp hname, h⟩
    · rintro ⟨name', hfile, h⟩
      rw [Path.fileName?_eq_some_iff.mpr hfile] at hname
      cases hname
      exact h

/-- A path is excluded exactly if a directory on it is one of build output or vendored code, or its file is a lock file,
a minified bundle or a binary file, or else the file itself has the name of such a directory. The last of these is not
meant: a file called `build` lies in no directory of that name. -/
theorem excludes_iff (path : String) : excludes path = true ↔ Unwanted path ∨ NamedAsDirectory path := by
  have hlock := fileName_test_iff path (p := (· ∈ lockFiles)) (by decide)
  have hscript := fileName_test_iff path
    (p := fun name => Text.endsWith (Text.lowerCase name) ".min.js" = true) (by decide)
  have hsheet := fileName_test_iff path
    (p := fun name => Text.endsWith (Text.lowerCase name) ".min.css" = true) (by decide)
  unfold excludes Unwanted
  simp only [Bool.or_eq_true, inExcludedDirectory_iff, isBinary_iff]
  rw [List.contains_iff_mem, hlock, hscript, hsheet]
  simp only [and_or_left, exists_or]
  conv_rhs => rw [or_right_comm]
  simp only [or_assoc]

/-- A script called `build` that lies in an ordinary directory. -/
theorem buildScript_is_excluded : excludes "tools/build" = true ∧ ¬ Unwanted "tools/build" := by
  refine ⟨by decide, ?_⟩
  have hpieces : Text.splitOn "tools/build" '/' = ["tools", "build"] := by decide
  rintro (⟨name, hlisted, -, before, after, hsplit, s, hs, -⟩ | ⟨name, hfile, hown⟩)
  · -- the only name with another one behind it is the first
    rw [hpieces] at hsplit
    obtain _ | ⟨first, before⟩ := before
    · obtain ⟨rfl, -⟩ := List.cons_eq_cons.mp hsplit
      revert hlisted
      decide
    · obtain ⟨-, hlast⟩ := List.cons_eq_cons.mp hsplit
      obtain ⟨-, rfl⟩ : name = "build" ∧ after = [] := by
        cases before with
        | nil => simpa [eq_comm] using hlast
        | cons _ before => simp at hlast
      cases hs
  · have hname : Path.fileName? "tools/build" = some "build" := by decide
    obtain rfl : "build" = name := Option.some.inj (hname.symm.trans (Path.fileName?_eq_some_iff.mpr hfile))
    obtain hlock | hscript | hsheet | ⟨ext, hext, -⟩ := hown
    · revert hlock
      decide
    · revert hscript
      decide
    · revert hsheet
      decide
    · have hnone : (Path.divide "build").2 = none := by decide
      rw [(Path.divide_eq_some_iff (by decide)).mpr hext] at hnone
      cases hnone

end Exclusion
end CodeAudit
