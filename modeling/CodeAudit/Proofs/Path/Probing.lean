import CodeAudit.Proofs.Path.Place

/-! The files that a relative import is looked for at. They are the entries at and in the place that it
denotes, unless that place or the importer's directory is a root; there, texts are joined where places
should be. -/
namespace CodeAudit.Path

/-- A Python file or stub, by its extension. -/
def isPython (path : String) : Bool := extension? path == some "py" || extension? path == some "pyi"

namespace Place

/-- The path without the last dot of its last name and what follows, if there is a dot that is not in
front of the name. -/
def stem? (p : Place) : Option String :=
  p.names.getLast?.bind fun name => (Text.cutLast? name ".").bind fun (before, _) =>
    if before = "" then none else some (written p.isAbsolute (p.names.dropLast ++ [before]))

/-- The place itself, and each extension behind its path and behind its stem. -/
def nameProbes (p : Place) : List String :=
  p.path :: probeExtensions.flatMap fun ext =>
    (p.path ++ "." ++ ext) :: p.stem?.toList.map fun stem => stem ++ "." ++ ext

/-- The index files in the place. -/
def indexProbes (p : Place) : List String :=
  indexNames.flatMap fun name => probeExtensions.map fun ext => p.inside (name ++ "." ++ ext)

/-- Where an import of the place is looked for, the preferred files first. -/
def probes (p : Place) : List String := p.nameProbes ++ p.indexProbes

/-- The place that imports are counted from in a directory: a root is taken for the top of the
project. -/
def origin (p : Place) : Place := if p.names = [] then here else p

variable {p : Place} {text : String}

/-- Cutting the extension off a path cuts it off the last name. -/
theorem withoutExtension_path (p : Place) : withoutExtension p.path = p.stem?.getD p.path := by
  rcases List.eq_nil_or_concat p.names with hnil | ⟨init, name, hnames⟩
  · have hpath : withoutExtension p.path = p.path := by
      rw [path, hnil]
      cases p.isAbsolute <;> decide
    rw [hpath, stem?, hnil]
    rfl
  · rw [List.concat_eq_append] at hnames
    have hname : IsPlain name := p.plain name (by simp [hnames])
    have hlast : p.names.getLast? = some name := by rw [hnames, List.getLast?_concat]
    rw [stem?, hlast, Option.bind_some, path, hnames, List.dropLast_concat, withoutExtension,
      splitName_written hname]
    rcases hcut : Text.cutLast? name "." with _ | ⟨before, after⟩
    · simp only [hcut]
      cases hlead : lead? p.isAbsolute init <;> simp [written_lead, hlead]
    · by_cases hempty : before = ""
      · simp only [hcut, hempty, Option.bind_some, if_true, Option.getD_none]
        cases hlead : lead? p.isAbsolute init <;> simp [written_lead, hlead]
      · simp only [hcut, hempty, Option.bind_some, if_false, Option.getD_some]
        cases hlead : lead? p.isAbsolute init <;> simp [written_lead, hlead]

/-- A stem is a path that the place's own path goes on from. -/
theorem path_of_stem? {stem : String} (h : p.stem? = some stem) : ∃ ext, p.path = stem ++ "." ++ ext := by
  simp only [stem?, Option.bind_eq_some_iff] at h
  obtain ⟨name, hlast, ⟨before, after⟩, hcut, hstem⟩ := h
  have hnames : p.names = p.names.dropLast ++ [name] := (List.dropLast_append_getLast? name hlast).symm
  split at hstem
  · cases hstem
  · cases hstem
    refine ⟨after, ?_⟩
    rw [path, hnames, List.dropLast_concat, ← Text.append_of_cutLast? hcut, written_lead, written_lead]
    cases lead? p.isAbsolute p.names.dropLast <;> simp [String.append_assoc]

theorem stem_ne_path {stem : String} (h : p.stem? = some stem) : stem ≠ p.path := by
  obtain ⟨ext, hpath⟩ := path_of_stem? h
  intro heq
  have hlength := congrArg String.length (heq.trans hpath)
  simp only [String.length_append] at hlength
  have hdot : ".".length = 1 := rfl
  omega

/-- The files that are looked for at the path of a place. -/
theorem candidates_path (p : Place) :
    candidates p.path = p.nameProbes ++ indexNames.flatMap fun name => probeExtensions.map fun ext =>
      p.path ++ "/" ++ name ++ "." ++ ext := by
  have hprobe : ∀ ext, (if withoutExtension p.path ≠ p.path then
      [p.path ++ "." ++ ext, withoutExtension p.path ++ "." ++ ext] else [p.path ++ "." ++ ext]) =
      (p.path ++ "." ++ ext) :: p.stem?.toList.map fun stem => stem ++ "." ++ ext := by
    intro ext
    rw [withoutExtension_path]
    cases hstem : p.stem? with
    | none => simp
    | some stem => simp [stem_ne_path hstem]
  simp only [candidates, nameProbes, hprobe, List.cons_append]

theorem candidates_path_of_ne (h : p.names ≠ []) : candidates p.path = p.probes := by
  have hinside : ∀ name ext, p.path ++ "/" ++ name ++ "." ++ ext = p.inside (name ++ "." ++ ext) := by
    intro name ext
    rw [inside, written_concat h, path]
    simp only [String.append_assoc]
  simp only [candidates_path, hinside, probes, indexProbes]

/-- The path that a relative path denotes in the directory of a file. -/
theorem normalize_joined (p : Place) (hrelative : Path.isAbsolute text = false) :
    normalize (if Path.directory p.path = "" then text else Path.directory p.path ++ "/" ++ text) =
      (p.directory.origin.follow text).path := by
  rw [p.directory_path, origin]
  by_cases h : p.directory.names = []
  · rw [if_pos h, if_pos rfl, if_pos h]
    exact normalize_relative hrelative
  · rw [if_neg h, if_neg (path_ne_empty h), if_neg h]
    exact normalize_append h text

/-- Where an import of the place is looked for in fact. At the top of the project the index files are
those of the root of the file system, and at that root there are none. -/
def searched (p : Place) : List String :=
  if p.names ≠ [] then p.probes else p.nameProbes ++ if p.isAbsolute then [] else root.indexProbes

theorem path_of_nil (h : p.names = []) : p.path = if p.isAbsolute then "/" else "" := by
  rw [path, h]
  cases p.isAbsolute <;> rfl

/-- Candidates that are not in normal form are not among the known paths. -/
theorem find?_candidates_path {known : List String} (hknown : ∀ k ∈ known, normalize k = k) (p : Place) :
    (candidates p.path).find? (known.contains ·) = p.searched.find? (known.contains ·) := by
  by_cases h : p.names = []
  · rw [candidates_path, searched, if_neg (not_not_intro h), path_of_nil h]
    cases p.isAbsolute with
    | true =>
      have hdoubled : ∀ c ∈ (indexNames.flatMap fun name => probeExtensions.map fun ext =>
          "/" ++ "/" ++ name ++ "." ++ ext), normalize c ≠ c := by decide +kernel
      rw [if_pos rfl, if_pos rfl, List.append_nil, List.find?_append]
      refine Option.or_eq_left_of_none (List.find?_eq_none.mpr fun c hc hmem => ?_)
      exact hdoubled c hc (hknown c (List.contains_iff_mem.mp hmem))
    | false => rfl
  · rw [candidates_path_of_ne h, searched, if_pos h]

end Place

section Relative

variable {importer specifier : String} {known : List String}

theorem isAbsolute_of_dot (hdot : Text.startsWith specifier "." = true) : isAbsolute specifier = false := by
  obtain ⟨rest, hrest⟩ := List.isPrefixOf_iff_prefix.mp hdot
  have hchars : specifier.toList = '.' :: rest := hrest.symm
  simp [isAbsolute, hchars]

theorem resolveImport_of_dot (hdot : Text.startsWith specifier "." = true) (known : List String) :
    resolveImport importer specifier known =
      (candidates (relativeBase (normalize importer) specifier)).find? (known.contains ·) := by
  simp only [resolveImport, hdot, if_true]

theorem relativeBase_of_other (hdot : Text.startsWith specifier "." = true)
    (hother : isPython (normalize importer) = false) :
    relativeBase (normalize importer) specifier =
      ((placeOf importer).directory.origin.follow specifier).path := by
  unfold isPython at hother
  simp only [relativeBase, hother, Bool.false_and, Bool.false_eq_true, if_false]
  rw [← Place.path_placeOf importer]
  exact (placeOf importer).normalize_joined (isAbsolute_of_dot hdot)

end Relative

namespace Place

variable {p : Place} {c : String}

theorem origin_eq (h : ¬(p.isAbsolute = true ∧ p.names = [])) : p.origin = p := by
  rw [origin]
  split
  case isTrue hnil =>
    have hrelative : p.isAbsolute = false := by
      cases habsolute : p.isAbsolute with
      | true => exact absurd ⟨habsolute, hnil⟩ h
      | false => rfl
    exact ext_names hrelative.symm hnil.symm
  case isFalse => rfl

/-- The index file of a root is not looked for. -/
theorem inside_index_notMem (h : p.names = []) : p.inside "index.ts" ∉ candidates p.path := by
  rw [inside, path, h]
  cases p.isAbsolute <;> decide +kernel

/-- From the root of the file system nothing is looked for elsewhere. -/
theorem isAbsolute_of_mem_probes (habsolute : p.isAbsolute = true) (hc : c ∈ p.probes) :
    Path.isAbsolute c = true := by
  have hslash : ∀ names x, Path.isAbsolute (written true names ++ x) = true := by
    intro names x
    simp [Path.isAbsolute]
  simp only [probes, nameProbes, indexProbes, List.mem_append, List.mem_cons, List.mem_flatMap, List.mem_map,
    Option.mem_toList] at hc
  obtain (rfl | ⟨ext, -, rfl | ⟨stem, hstem, rfl⟩⟩) | ⟨name, -, ext, -, rfl⟩ := hc
  · rw [p.isAbsolute_path, habsolute]
  · rw [path, habsolute, String.append_assoc]
    exact hslash _ _
  · simp only [stem?, habsolute, Option.bind_eq_some_iff] at hstem
    obtain ⟨last, -, cut, -, hwritten⟩ := hstem
    split at hwritten
    · cases hwritten
    · cases hwritten
      rw [String.append_assoc]
      exact hslash _ _
  · rw [inside, habsolute, ← String.append_empty (s := written _ _)]
    exact hslash _ _

end Place

/-- A relative import of a file that is not Python leads to the first known file at or in the place that
it denotes, in the order of probing, for every set of known files exactly if the importer does not lie in
the root of the file system and the place is no root. In the other cases the import is counted from the
top of the project, and index files are not looked for where they are. -/
theorem relative_imports_probe_places (importer specifier : String)
    (hdot : Text.startsWith specifier "." = true) (hother : isPython (normalize importer) = false) :
    let dir := (placeOf importer).directory
    let target := dir.follow specifier
    (∀ known, (∀ k ∈ known, normalize k = k) →
        resolveImport importer specifier known =
          (dir.origin.follow specifier).searched.find? (known.contains ·)) ∧
      ((∀ known, (∀ k ∈ known, normalize k = k) →
          resolveImport importer specifier known = target.probes.find? (known.contains ·)) ↔
        ¬(dir.isAbsolute = true ∧ dir.names = []) ∧ target.names ≠ []) := by
  intro dir target
  have hsearched : ∀ known, (∀ k ∈ known, normalize k = k) →
      resolveImport importer specifier known =
        (dir.origin.follow specifier).searched.find? (known.contains ·) := by
    intro known hknown
    rw [resolveImport_of_dot hdot, relativeBase_of_other hdot hother]
    exact Place.find?_candidates_path hknown _
  refine ⟨hsearched, fun hprobes => ?_, ?_⟩
  · have hroot : ¬(dir.isAbsolute = true ∧ dir.names = []) := by
      rintro ⟨habsolute, hroot⟩
      -- the path that is looked for first is a relative one
      let found := (dir.origin.follow specifier).path
      have hrelative : isAbsolute found = false := by
        rw [Place.isAbsolute_path, Place.origin, if_pos hroot]
        rfl
      have hanswer : target.probes.find? ([found].contains ·) = some found := by
        rw [← hprobes [found] (by simp [found, Place.normalize_path]), resolveImport_of_dot hdot,
          relativeBase_of_other hdot hother]
        simp [candidates, found, dir]
      have hmem := Place.isAbsolute_of_mem_probes (p := target) habsolute (List.mem_of_find?_eq_some hanswer)
      rw [hrelative] at hmem
      cases hmem
    refine ⟨hroot, fun hnil => ?_⟩
    have hindex := Place.inside_index_notMem hnil
    have hknown : ∀ k ∈ [target.inside "index.ts"], normalize k = k := by
      rw [Place.inside, hnil]
      cases target.isAbsolute <;> decide
    have hanswer : (target.probes.find? ([target.inside "index.ts"].contains ·)).isSome = true := by
      rw [List.find?_isSome]
      refine ⟨target.inside "index.ts", List.mem_append_right _ ?_, by simp⟩
      refine List.mem_flatMap.mpr ⟨"index", by decide, List.mem_map.mpr ⟨"ts", by decide, ?_⟩⟩
      exact congrArg target.inside (by decide)
    rw [← hprobes _ hknown, resolveImport_of_dot hdot, relativeBase_of_other hdot hother,
      Place.origin_eq hroot, List.find?_isSome] at hanswer
    obtain ⟨c, hc, hfound⟩ := hanswer
    rw [List.contains_iff_mem, List.mem_singleton] at hfound
    exact hindex (hfound ▸ hc)
  · rintro ⟨hroot, hnames⟩ known hknown
    rw [hsearched known hknown, Place.origin_eq hroot, Place.searched, if_pos hnames]

/-- A script in a directory imports another one under the name that it will have when it is compiled. -/
theorem compiled_name_leads_to_source :
    let known := ["src/lib/util.ts", "src/lib/util/index.ts", "util.ts"]
    Text.startsWith "../lib/util.js" "." = true ∧ isPython (normalize "./src/web/app.ts") = false ∧
      (∀ k ∈ known, normalize k = k) ∧
      ((placeOf "./src/web/app.ts").directory.follow "../lib/util.js").path = "src/lib/util.js" ∧
      resolveImport "./src/web/app.ts" "../lib/util.js" known =
        ((placeOf "./src/web/app.ts").directory.follow "../lib/util.js").probes.find? (known.contains ·) ∧
      resolveImport "./src/web/app.ts" "../lib/util.js" known = some "src/lib/util.ts" := by
  intro known
  have hknown : ∀ k ∈ known, normalize k = k := by decide +kernel
  have hprobes := (relative_imports_probe_places "./src/web/app.ts" "../lib/util.js" (by decide) (by decide +kernel)).2.mpr
    (by decide +kernel)
  exact ⟨by decide, by decide +kernel, hknown, by decide +kernel, hprobes known hknown, by decide +kernel⟩

/-- A file in the root of the file system does not find its neighbour, and of two index files at the tops
of the project and of the file system the wrong one is found, or none. -/
theorem imports_at_roots_go_astray :
    (resolveImport "/a.ts" "./b" ["/b.ts"] = none ∧
      ((placeOf "/a.ts").directory.follow "./b").probes.find? (["/b.ts"].contains ·) = some "/b.ts") ∧
    (resolveImport "src/a.ts" ".." ["index.ts", "/index.ts"] = some "/index.ts" ∧
      ((placeOf "src/a.ts").directory.follow "..").probes.find? (["index.ts", "/index.ts"].contains ·) =
        some "index.ts") ∧
    resolveImport "/src/a.ts" ".." ["/index.ts"] = none ∧
      ((placeOf "/src/a.ts").directory.follow "..").probes.find? (["/index.ts"].contains ·) =
        some "/index.ts" := by
  decide +kernel

end CodeAudit.Path
