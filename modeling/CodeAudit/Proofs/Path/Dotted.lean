import CodeAudit.Proofs.Path.Probing

/-! Relative imports of dotted modules. The place of a module is found by its dots, but the files there
are probed for all languages alike: a file of another language can stand before the module's own. -/
namespace CodeAudit.Path

section Search

variable {known before after l : List String} {c : String}

/-- The first known one of a list is a certain member exactly if it is known and none before it is. -/
theorem find?_known_iff (hc : c ∉ before) :
    (before ++ c :: after).find? (known.contains ·) = some c ↔ c ∈ known ∧ ∀ r ∈ before, r ∉ known := by
  rw [List.find?_append]
  cases hfound : before.find? (known.contains ·) with
  | none =>
    have hbefore : ∀ r ∈ before, r ∉ known := by simpa using List.find?_eq_none.mp hfound
    by_cases hknown : c ∈ known
    · simpa [hknown] using hbefore
    · simp only [Option.none_or, hknown, false_and, iff_false]
      intro hsome
      exact hknown (by simpa using List.find?_some hsome)
  | some r =>
    have hmem := List.mem_of_find?_eq_some hfound
    have hr : r ∈ known := by simpa using List.find?_some hfound
    simp only [Option.some_or, Option.some.injEq]
    constructor
    · rintro rfl
      exact absurd hmem hc
    · rintro ⟨-, hbefore⟩
      exact absurd hr (hbefore r hmem)

theorem find?_only_known (hc : c ∈ l) : l.find? ([c].contains ·) = some c := by
  have hself : [c].contains c = true := by simp
  have hfound : (l.find? ([c].contains ·)).isSome = true := List.find?_isSome.mpr ⟨c, hc, hself⟩
  obtain ⟨d, hd⟩ := Option.isSome_iff_exists.mp hfound
  have hdc : d = c := by simpa using List.find?_some hd
  rw [hd, hdc]

end Search

namespace Place

/-- So many directories up. -/
def climb : Nat → Place → Place
  | 0, p => p
  | n + 1, p => climb n (p.follow "..")

/-- The place of a dotted module that is imported in a directory. The first dot is the directory, each
further one in front is one directory up, and the dots behind part names. -/
def moduleAt (dir : Place) (specifier : String) : Place :=
  let dots := (specifier.toList.takeWhile (· = '.')).length
  (climb (dots - 1) dir).follow
    (String.ofList ((specifier.toList.drop dots).map fun c => if c = '.' then '/' else c))

theorem follow_follow (p : Place) (x y : String) : (p.follow x).follow y = p.follow (x ++ "/" ++ y) := by
  have hnames : ((p.follow x).follow y).names = (p.follow (x ++ "/" ++ y)).names := by
    simp only [follow, segments_append_slash, List.foldl_append, List.reverse_reverse]
  have habsolute : ((p.follow x).follow y).isAbsolute = (p.follow (x ++ "/" ++ y)).isAbsolute := by
    simp only [follow]
  exact ext_names habsolute hnames

theorem follow_dot (p : Place) : p.follow "." = p := by
  have hsegments : segments "." = ["."] := by decide
  have hnames : (p.follow ".").names = p.names := by
    simp only [follow, hsegments, List.foldl_cons, foldSegment_skipped (.inr rfl), List.foldl_nil,
      List.reverse_reverse]
  have habsolute : (p.follow ".").isAbsolute = p.isAbsolute := by simp only [follow]
  exact ext_names habsolute hnames

theorem follow_climb (n : Nat) (p : Place) (text : String) :
    p.follow (Text.repeatText n "../" ++ text) = (climb n p).follow text := by
  induction n generalizing p with
  | zero => simp [Text.repeatText, climb]
  | succ n ih =>
    have hstep : Text.repeatText (n + 1) "../" ++ text = ".." ++ "/" ++ (Text.repeatText n "../" ++ text) := by
      rw [Text.repeatText, List.replicate_succ, String.join_cons, ← Text.repeatText, String.append_assoc]
      rfl
    rw [hstep, ← follow_follow, ih, climb]

/-- The path that the dots of a module are turned into leads to its place. -/
theorem follow_ofDottedModule (dir : Place) (specifier : String) :
    dir.follow (ofDottedModule specifier) = dir.moduleAt specifier := by
  unfold ofDottedModule moduleAt
  generalize (specifier.toList.takeWhile (· = '.')).length = dots
  by_cases hdots : dots ≤ 1
  · have hnone : dots - 1 = 0 := by omega
    have hsplit : ∀ x : String, "./" ++ x = "." ++ "/" ++ x := fun _ => rfl
    simp only [if_pos hdots, hnone, climb]
    rw [hsplit, ← follow_follow, follow_dot]
  · simp only [if_neg hdots]
    exact follow_climb _ _ _

end Place

section Names

variable {absolute : Bool} {names : List String} {name before after : String}

theorem splitOn_written (hplain : ∀ s ∈ names, IsPlain s) (hne : names ≠ []) :
    Text.splitOn (written absolute names) '/' = (if absolute then [""] else []) ++ names := by
  have hjoin : Text.splitOn (Text.join "/" names) '/' = names :=
    Text.splitOn_join hne fun s hs => (hplain s hs).1
  cases absolute with
  | false => rw [written_false, hjoin, if_neg Bool.false_ne_true, List.nil_append]
  | true =>
    rw [Text.splitOn] at hjoin ⊢
    rw [written_true, String.toList_append]
    simpa [Text.splitChars] using hjoin

/-- The file name of what is written out is its last name. -/
theorem fileName?_written (hplain : ∀ s ∈ names ++ [name], IsPlain s) (hlength : 2 < name.length) :
    fileName? (written absolute (names ++ [name])) = some name := by
  have hother : ∀ s : String, s.length ≤ 2 → name ≠ s := by
    rintro s hs rfl
    omega
  have hempty : name ≠ "" := hother "" (by decide)
  have hdot : name ≠ "." := hother "." (by decide)
  have hcomponent : component? name = some (.normal name) := by
    rw [component?, if_neg (by simp [hempty, hdot]), if_neg (hother ".." (by decide))]
  have hwritten : written absolute (names ++ [name]) ≠ "" := by
    rw [written_lead]
    cases lead? absolute names <;> simp [hempty]
  rw [fileName?, components, splitOn_written hplain (by simp), ← List.append_assoc]
  cases (if absolute then [""] else []) ++ names with
  | nil => simp [hwritten, hempty, hdot, hcomponent]
  | cons first rest =>
    simp only [List.cons_append, List.filterMap_append, List.filterMap_cons, hcomponent, List.filterMap_nil,
      ← List.append_assoc, List.getLast?_concat]

/-- The extension of what is written out is what follows the last dot. -/
theorem extension?_written (hplain : ∀ s ∈ names ++ [before ++ "." ++ after], IsPlain s)
    (hbefore : before ≠ "") (hafter : after ≠ "") (hdot : '.' ∉ after.toList) :
    extension? (written absolute (names ++ [before ++ "." ++ after])) = some after := by
  have hlength : 2 < (before ++ "." ++ after).length := by
    have hone : ".".length = 1 := rfl
    have hb : before.length ≠ 0 := fun h => hbefore (String.length_eq_zero_iff.mp h)
    have ha : after.length ≠ 0 := fun h => hafter (String.length_eq_zero_iff.mp h)
    rw [String.length_append, String.length_append]
    omega
  have hparent : before ++ "." ++ after ≠ ".." := by
    intro heq
    rw [heq] at hlength
    exact absurd hlength (by decide)
  rw [extension?, fileName?_written hplain hlength, Option.bind_some, divide, if_neg hparent,
    Text.cutLast?_append rfl hdot]
  simp only [hbefore, if_false]

end Names

namespace Place

variable {p : Place} {ext : String}

/-- The extensions that are probed before Python's. -/
def earlierExtensions : List String := probeExtensions.takeWhile (· ≠ "py")

/-- What is looked for before the file of a Python module at a place. -/
def moduleRivals (p : Place) : List String :=
  p.path :: earlierExtensions.flatMap fun ext =>
    (p.path ++ "." ++ ext) :: p.stem?.toList.map fun stem => stem ++ "." ++ ext

/-- What is looked for before the file of a Python package at a place. -/
def packageRivals (p : Place) : List String :=
  p.nameProbes ++ probeExtensions.map (fun ext => p.inside ("index." ++ ext)) ++
    earlierExtensions.map fun ext => p.inside ("__init__." ++ ext)

theorem probeExtensions_eq : probeExtensions = earlierExtensions ++ ["py", "java", "go"] := by decide

theorem moduleRivals_append (p : Place) :
    ∃ rest, p.probes = p.moduleRivals ++ (p.path ++ ".py") :: rest := by
  refine ⟨(p.stem?.toList.map fun stem => stem ++ "." ++ "py") ++ (["java", "go"].flatMap fun ext =>
    (p.path ++ "." ++ ext) :: p.stem?.toList.map fun stem => stem ++ "." ++ ext) ++ p.indexProbes, ?_⟩
  have hpy : p.path ++ "." ++ "py" = p.path ++ ".py" := by rw [String.append_assoc]; rfl
  rw [probes, nameProbes, moduleRivals, probeExtensions_eq]
  simp only [List.flatMap_append, List.flatMap_cons, hpy, List.cons_append, List.append_assoc]

theorem packageRivals_append (p : Place) :
    ∃ rest, p.probes = p.packageRivals ++ p.inside "__init__.py" :: rest := by
  refine ⟨["java", "go"].map fun ext => p.inside ("__init__." ++ ext), ?_⟩
  have hindex : ∀ ext, "index" ++ "." ++ ext = "index." ++ ext := fun _ => rfl
  have hinit : ∀ ext, "__init__" ++ "." ++ ext = "__init__." ++ ext := fun _ => rfl
  have hpy : "__init__." ++ "py" = "__init__.py" := rfl
  rw [probes, indexProbes, packageRivals, indexNames]
  simp only [List.flatMap_cons, List.flatMap_nil, List.append_nil, hindex, hinit]
  nth_rewrite 2 [probeExtensions_eq]
  simp only [List.map_append, List.map_cons, hpy, List.append_assoc]

theorem ne_py_of_mem_earlierExtensions (h : ext ∈ earlierExtensions) : ext ≠ "py" := by
  have hall : ∀ ext ∈ earlierExtensions, ext ≠ "py" := by decide
  exact hall ext h

theorem module_notMem_rivals (p : Place) : p.path ++ ".py" ∉ p.moduleRivals := by
  have hending : ∀ x, ∀ ext ∈ earlierExtensions, x ++ ".py" ≠ ext := by
    intro x ext hext heq
    have hnone : ∀ ext ∈ earlierExtensions, ¬ ".py".toList.isSuffixOf ext.toList = true := by decide
    exact hnone ext hext (by rw [← heq]; simp)
  intro hmem
  simp only [moduleRivals, List.mem_cons, List.mem_flatMap, List.mem_map, Option.mem_toList] at hmem
  obtain hsame | ⟨ext, hext, hsame | ⟨stem, hstem, hsame⟩⟩ := hmem
  · simp at hsame
  · have hpy : p.path ++ "." ++ "py" = p.path ++ "." ++ ext := by rw [← hsame, String.append_assoc]; rfl
    exact ne_py_of_mem_earlierExtensions hext ((String.append_right_inj _).mp hpy).symm
  · obtain ⟨old, hpath⟩ := path_of_stem? hstem
    have hassoc : stem ++ "." ++ old ++ ".py" = stem ++ "." ++ (old ++ ".py") := String.append_assoc
    rw [hpath, hassoc, String.append_right_inj] at hsame
    exact hending old ext hext hsame.symm

theorem package_notMem_rivals (h : p.names ≠ []) : p.inside "__init__.py" ∉ p.packageRivals := by
  have hinside : ∀ name, p.inside name = p.path ++ "/" ++ name := fun name => written_concat h name
  have hone : ".".length = 1 ∧ "/".length = 1 ∧ "__init__.py".length = 11 := by decide
  have hshort : ∀ ext ∈ probeExtensions, ext.length ≤ 4 := by decide
  have hlonger : ∀ c ∈ p.nameProbes, c.length < (p.inside "__init__.py").length := by
    intro c hc
    rw [hinside, String.length_append, String.length_append]
    simp only [nameProbes, List.mem_cons, List.mem_flatMap, List.mem_map, Option.mem_toList] at hc
    obtain rfl | ⟨ext, hext, rfl | ⟨stem, hstem, rfl⟩⟩ := hc
    · omega
    · have hlength := hshort ext hext
      rw [String.length_append, String.length_append]
      omega
    · have hlength := hshort ext hext
      obtain ⟨old, hpath⟩ := path_of_stem? hstem
      rw [hpath]
      simp only [String.length_append]
      omega
  intro hmem
  simp only [packageRivals, List.mem_append, List.mem_map, hinside, String.append_right_inj] at hmem
  obtain (hname | ⟨ext, hext, hsame⟩) | ⟨ext, hext, hsame⟩ := hmem
  · have hless := hlonger _ hname
    rw [hinside] at hless
    omega
  · have hindex : ∀ ext ∈ probeExtensions, "index." ++ ext ≠ "__init__.py" := by decide
    exact hindex ext hext hsame
  · have hinit : ∀ ext ∈ earlierExtensions, "__init__." ++ ext ≠ "__init__.py" := by decide
    exact hinit ext hext hsame

/-- A file beside a module that has another language's extension is no Python file. -/
theorem isPython_path_append (h : p.names ≠ []) (hext : ext ∈ probeExtensions) (hpy : ext ≠ "py") :
    isPython (p.path ++ "." ++ ext) = false := by
  have hcuts : ∀ ext ∈ probeExtensions, ext ≠ "py" → ∃ cut ∈ [("", ext), (".d", "ts")],
      "." ++ ext = cut.1 ++ "." ++ cut.2 ∧ '.' ∉ cut.2.toList ∧ cut.2 ≠ "" ∧ cut.2 ≠ "py" ∧ cut.2 ≠ "pyi" := by
    decide
  have hslashes : ∀ ext ∈ probeExtensions, '/' ∉ ext.toList ∧ '\\' ∉ ext.toList := by decide
  obtain ⟨⟨mid, last⟩, -, hcut, hdot, hempty, hone, hother⟩ := hcuts ext hext hpy
  obtain ⟨init, name, hnames⟩ := (List.eq_nil_or_concat p.names).resolve_left h
  rw [List.concat_eq_append] at hnames
  have hname : name ∈ p.names := by simp [hnames]
  have hlast : name ++ mid ++ "." ++ last = name ++ "." ++ ext := by
    simp only [String.append_assoc] at hcut ⊢
    rw [hcut]
  have hpath : p.path ++ "." ++ ext = written p.isAbsolute (init ++ [name ++ mid ++ "." ++ last]) := by
    rw [hlast, path, hnames, written_lead, written_lead]
    cases lead? p.isAbsolute init <;> simp [String.append_assoc]
  have hplain : ∀ s ∈ init ++ [name ++ mid ++ "." ++ last], IsPlain s := by
    intro s hs
    rcases List.mem_append.mp hs with hs | hs
    · exact p.plain s (by simp [hnames, hs])
    · have hname := p.plain name hname
      have hext := hslashes ext hext
      rw [List.mem_singleton.mp hs, hlast]
      constructor <;> simp [hname.1, hname.2, hext.1, hext.2]
  have hbefore : name ++ mid ≠ "" := by simp [p.ne_empty hname]
  rw [isPython, hpath, extension?_written hplain hbefore hempty hdot]
  simp [hone, hother]

end Place

section Dotted

variable {importer specifier : String}

theorem isAbsolute_ofDottedModule (specifier : String) : isAbsolute (ofDottedModule specifier) = false := by
  have hdot : ∀ n, 0 < n → ∃ rest, Text.repeatText n "../" = "../" ++ rest := by
    intro n hn
    obtain ⟨m, rfl⟩ := Nat.exists_eq_add_of_lt hn
    exact ⟨Text.repeatText m "../", by simp [Text.repeatText, List.replicate_succ]⟩
  rw [ofDottedModule]
  split
  · simp [isAbsolute]
  · rename_i hdots
    obtain ⟨rest, hrest⟩ := hdot _ (Nat.sub_pos_of_lt (not_le.mp hdots))
    simp [hrest, isAbsolute]

theorem relativeBase_of_python (hpython : isPython (normalize importer) = true)
    (hslash : Text.containsChar specifier '/' = false) :
    relativeBase (normalize importer) specifier =
      ((placeOf importer).directory.origin.moduleAt specifier).path := by
  unfold isPython at hpython
  simp only [relativeBase, hpython, hslash, Bool.not_false, Bool.and_self, if_true]
  rw [← Place.path_placeOf importer, Place.normalize_joined _ (isAbsolute_ofDottedModule specifier),
    Place.follow_ofDottedModule]

end Dotted

/-- A dotted relative import of a Python file is probed for all languages alike. Away from the roots it
leads to the module's file, or to the package's, exactly if that file is known and nothing that stands
before it in the order of probing is; so it stays in Python if the known files at its place are Python,
and a single file of another language there is taken for the module. -/
theorem dotted_imports_probe_all_languages (importer specifier : String)
    (hpython : isPython (normalize importer) = true) (hdot : Text.startsWith specifier "." = true)
    (hslash : Text.containsChar specifier '/' = false)
    (hroot : ¬((placeOf importer).directory.isAbsolute = true ∧ (placeOf importer).directory.names = []))
    (hnames : ((placeOf importer).directory.moduleAt specifier).names ≠ []) :
    let target := (placeOf importer).directory.moduleAt specifier
    (∀ known, resolveImport importer specifier known = some (target.path ++ ".py") ↔
        target.path ++ ".py" ∈ known ∧ ∀ r ∈ target.moduleRivals, r ∉ known) ∧
      (∀ known, resolveImport importer specifier known = some (target.inside "__init__.py") ↔
        target.inside "__init__.py" ∈ known ∧ ∀ r ∈ target.packageRivals, r ∉ known) ∧
      (∀ known, (∀ c ∈ target.probes, c ∈ known → isPython c = true) →
        ∀ found, resolveImport importer specifier known = some found → isPython found = true) ∧
      ∀ ext ∈ probeExtensions, ext ≠ "py" →
        resolveImport importer specifier [target.path ++ "." ++ ext] = some (target.path ++ "." ++ ext) ∧
          isPython (target.path ++ "." ++ ext) = false := by
  intro target
  have hanswer : ∀ known, resolveImport importer specifier known = target.probes.find? (known.contains ·) := by
    intro known
    rw [resolveImport_of_dot hdot, relativeBase_of_python hpython hslash, Place.origin_eq hroot,
      Place.candidates_path_of_ne hnames]
  refine ⟨fun known => ?_, fun known => ?_, fun known hall found hfound => ?_, fun ext hext hpy => ⟨?_, ?_⟩⟩
  · obtain ⟨rest, hprobes⟩ := target.moduleRivals_append
    rw [hanswer, hprobes]
    exact find?_known_iff target.module_notMem_rivals
  · obtain ⟨rest, hprobes⟩ := target.packageRivals_append
    rw [hanswer, hprobes]
    exact find?_known_iff (Place.package_notMem_rivals hnames)
  · rw [hanswer] at hfound
    exact hall found (List.mem_of_find?_eq_some hfound) (by simpa using List.find?_some hfound)
  · rw [hanswer]
    refine find?_only_known (List.mem_append_left _ (List.mem_cons_of_mem _ ?_))
    exact List.mem_flatMap.mpr ⟨ext, hext, List.mem_cons_self⟩
  · exact Place.isPython_path_append hnames hext hpy

/-- A module one package up is found, before the package of the same name. -/
theorem module_of_parent_package_is_found :
    let target := (placeOf "pkg/web/views.py").directory.moduleAt "..core.base"
    let known := ["pkg/core/base.py", "pkg/core/base/__init__.py", "pkg/core/base.go"]
    isPython (normalize "pkg/web/views.py") = true ∧ Text.startsWith "..core.base" "." = true ∧
      Text.containsChar "..core.base" '/' = false ∧ target.names = ["pkg", "core", "base"] ∧
      (∀ r ∈ target.moduleRivals, r ∉ known) ∧
      resolveImport "pkg/web/views.py" "..core.base" known = some "pkg/core/base.py" := by
  intro target known
  have hnames : target.names = ["pkg", "core", "base"] := by decide +kernel
  have hpath : target.path ++ ".py" = "pkg/core/base.py" := by decide +kernel
  have hrivals : ∀ r ∈ target.moduleRivals, r ∉ known := by decide +kernel
  have hfound := (dotted_imports_probe_all_languages "pkg/web/views.py" "..core.base" (by decide +kernel) (by decide)
    (by decide) (by decide +kernel) (by decide +kernel)).1 known
  refine ⟨by decide +kernel, by decide, by decide, hnames, hrivals, ?_⟩
  rw [← hpath]
  exact hfound.mpr ⟨by decide +kernel, hrivals⟩

/-- A script beside a Python module, and an index file in a Python package, are taken for them. -/
theorem other_files_shadow_python_modules :
    let known := ["pkg/models.py", "pkg/models.ts", "pkg/sub/__init__.py", "pkg/sub/index.py"]
    let dir := (placeOf "pkg/views.py").directory
    ((dir.moduleAt ".models").path ++ ".py" = "pkg/models.py" ∧
      resolveImport "pkg/views.py" ".models" known = some "pkg/models.ts" ∧ isPython "pkg/models.ts" = false) ∧
    (dir.moduleAt ".sub").inside "__init__.py" = "pkg/sub/__init__.py" ∧
      resolveImport "pkg/views.py" ".sub" known = some "pkg/sub/index.py" := by
  decide +kernel

end CodeAudit.Path
