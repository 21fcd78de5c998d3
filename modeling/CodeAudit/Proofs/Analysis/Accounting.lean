import CodeAudit.Proofs.Analysis.Dependencies
import CodeAudit.Proofs.Graph.Rotation
import CodeAudit.Proofs.Sorting
import Mathlib.Data.List.Dedup

/-! The parts of a dependency report agree with each other. Reading a file adds edges that begin there and nothing to
the numbers of another file; so the numbers that were taken when a file was read are those of the finished report. -/
namespace CodeAudit.Coupling

variable {known : List String} {importer name path : String} {i : ImportInfo} {t t' : Tally} {f : AstFile}
  {files : List AstFile} {limit : Nat} {edges added : List Dependency}

def Dependency.ends (e : Dependency) : String × String := (e.source, e.target)

/-- The external package that an import means, if it leads to no file. -/
def package? (known : List String) (importer : String) (i : ImportInfo) : Option String :=
  match classify known importer i with
  | .package name => some name
  | _ => none

/-- The external packages that a file imports, each once. -/
def externals (known : List String) (f : AstFile) : List String :=
  (f.imports.filterMap (package? known f.modulePath)).dedup

/-- The relative imports of a file that lead to no file. -/
def unresolvedImports (known : List String) (f : AstFile) : List (String × String) :=
  (f.imports.filter fun i => classify known f.modulePath i = .missing).map fun i => (f.modulePath, i.source)

/-- What a file depends on: other files and external packages. -/
def outgoing (edges : List Dependency) (known : List String) (f : AstFile) : Nat :=
  (edges.filter fun e => e.source = f.modulePath).length + (externals known f).length

/-- What is said of a file that depends on too much. -/
def coupled (limit : Nat) (edges : List Dependency) (known : List String) (f : AstFile) : List Finding :=
  if limit < outgoing edges known f then [couplingFinding limit f.modulePath (outgoing edges known f)] else []

/-- Sorted and without repetitions a list is as long as any list of the same members without repetitions. -/
theorem length_sortedDistinct {xs ys : List String} (hys : ys.Nodup) (h : ∀ s, s ∈ xs ↔ s ∈ ys) :
    (Text.sortedDistinct xs).length = ys.length := by
  have hnodup : (Text.sortedDistinct xs).Nodup := (Text.pairwise_sortedDistinct xs).imp fun hlt => hlt.ne
  apply List.Perm.length_eq
  rw [List.perm_ext_iff_of_nodup hnodup hys]
  intro s
  rw [Text.mem_sortedDistinct, h]

theorem length_packagesOf (known : List String) (f : AstFile) :
    (packagesOf known f.modulePath f).length = (externals known f).length :=
  length_sortedDistinct (List.nodup_dedup _) fun _ => List.mem_dedup.symm

/-- What reading the imports of a file adds to a tally. -/
structure Tally.Adds (known : List String) (importer : String) (imports : List ImportInfo) (t t' : Tally) : Prop where
  edges : ∃ added, t'.edges = t.edges ++ added ∧ ∀ e ∈ added, e.source = importer
  nodup : (t.edges.map Dependency.ends).Nodup → (t'.edges.map Dependency.ends).Nodup
  uses : t'.uses = t.uses ++ (imports.filterMap (package? known importer)).map (·, importer)
  unresolved : t'.unresolved = t.unresolved ++
    (imports.filter fun i => classify known importer i = .missing).map fun i => (importer, i.source)
  fanOut : t'.fanOut = t.fanOut
  findings : t'.findings = t.findings

theorem adds_addImport (known : List String) (importer : String) (t : Tally) (i : ImportInfo) :
    t.Adds known importer [i] (t.addImport known importer i) := by
  unfold Tally.addImport
  cases hclass : classify known importer i with
  | file target =>
    have hpackage : package? known importer i = none := by simp [package?, hclass]
    dsimp only
    split
    case isTrue => exact ⟨⟨[], by simp⟩, id, by simp [hpackage], by simp [hclass], rfl, rfl⟩
    case isFalse hnew =>
      refine ⟨⟨_, rfl, by simp⟩, ?_, by simp [hpackage], by simp [hclass], rfl, rfl⟩
      intro hnodup
      rw [List.map_append, List.map_singleton, ← List.concat_eq_append, List.nodup_concat]
      refine ⟨?_, hnodup⟩
      intro hmem
      obtain ⟨e, he, hends⟩ := List.mem_map.mp hmem
      rw [Dependency.ends, Dependency.ends, Prod.mk.injEq] at hends
      exact hnew (List.any_eq_true.mpr ⟨e, he, decide_eq_true hends⟩)
  | itself =>
    have hpackage : package? known importer i = none := by simp [package?, hclass]
    exact ⟨⟨[], by simp⟩, id, by simp [hpackage], by simp [hclass], rfl, rfl⟩
  | missing =>
    have hpackage : package? known importer i = none := by simp [package?, hclass]
    exact ⟨⟨[], by simp⟩, id, by simp [hpackage], by simp [hclass], rfl, rfl⟩
  | package name =>
    have hpackage : package? known importer i = some name := by simp [package?, hclass]
    exact ⟨⟨[], by simp⟩, id, by simp [hpackage], by simp [hclass], rfl, rfl⟩

theorem adds_foldl_addImport (known : List String) (importer : String) (imports : List ImportInfo) (t : Tally) :
    t.Adds known importer imports (imports.foldl (Tally.addImport known importer) t) := by
  induction imports generalizing t with
  | nil => exact ⟨⟨[], by simp⟩, id, by simp, by simp, rfl, rfl⟩
  | cons i rest ih =>
    have hone := adds_addImport known importer t i
    have hrest := ih (t.addImport known importer i)
    obtain ⟨added, hadded, hsource⟩ := hone.edges
    obtain ⟨more, hmore, hsource'⟩ := hrest.edges
    rw [List.foldl_cons]
    refine ⟨⟨added ++ more, ?_, ?_⟩, fun h => hrest.nodup (hone.nodup h), ?_, ?_, hrest.fanOut.trans hone.fanOut,
      hrest.findings.trans hone.findings⟩
    · rw [hmore, hadded, List.append_assoc]
    · intro e he
      rcases List.mem_append.mp he with he | he
      · exact hsource e he
      · exact hsource' e he
    · rw [hrest.uses, hone.uses, List.append_assoc, ← List.map_append, ← List.filterMap_append]
      rfl
    · rw [hrest.unresolved, hone.unresolved, List.append_assoc, ← List.map_append, ← List.filter_append]
      rfl

/-- Edges that begin elsewhere do not count. -/
theorem outgoing_append (h : ∀ e ∈ added, e.source ≠ f.modulePath) :
    outgoing (edges ++ added) known f = outgoing edges known f := by
  have hnone : (added.filter fun e => e.source = f.modulePath) = [] := by
    rw [List.filter_eq_nil_iff]
    intro e he
    simpa using h e he
  rw [outgoing, outgoing, List.filter_append, hnone, List.append_nil]

/-- What a tally holds once these files have been read. -/
structure Tally.Holds (known : List String) (limit : Nat) (files : List AstFile) (t : Tally) : Prop where
  nodup : (t.edges.map Dependency.ends).Nodup
  uses : t.uses = files.flatMap fun f => (f.imports.filterMap (package? known f.modulePath)).map (·, f.modulePath)
  unresolved : t.unresolved = files.flatMap (unresolvedImports known)
  keys : ∀ f ∈ files, (t.adjacency.get? f.modulePath).isSome = true
  sorted : Keyed.Sorted t.fanOut
  fanOut : ∀ f ∈ files, t.fanOut.get? f.modulePath = some (outgoing t.edges known f)
  findings : t.findings = files.flatMap (coupled limit t.edges known)

/-- Once its imports are read, the number of a file is taken. -/
theorem Tally.addFile_eq (known : List String) (limit : Nat) (t : Tally) (f : AstFile) :
    let read := f.imports.foldl (Tally.addImport known f.modulePath) t
    t.addFile known limit f = { read with
      adjacency := read.adjacency.insert f.modulePath
        (Text.sorted ((read.edges.filter fun e => e.source = f.modulePath).map (·.target)))
      fanOut := read.fanOut.insert f.modulePath (outgoing read.edges known f)
      findings := read.findings ++ coupled limit read.edges known f } := by
  intro read
  have hcount : (Text.sorted ((read.edges.filter fun e => e.source = f.modulePath).map (·.target))).length +
      (packagesOf known f.modulePath f).length = outgoing read.edges known f := by
    rw [Text.sorted, List.length_mergeSort, List.length_map, length_packagesOf, outgoing]
  rw [coupled, ← hcount]
  rfl

/-- Reading a file leaves the numbers of the others alone. -/
theorem Tally.Adds.outgoing_eq {imports : List ImportInfo} (h : t.Adds known importer imports t')
    (hne : f.modulePath ≠ importer) : outgoing t'.edges known f = outgoing t.edges known f := by
  obtain ⟨added, hadded, hsource⟩ := h.edges
  rw [hadded]
  apply outgoing_append
  intro e he heq
  rw [hsource e he] at heq
  exact hne heq.symm

theorem Tally.Holds.addFile (h : t.Holds known limit files) (hsorted : Keyed.Sorted t.adjacency)
    (hnew : f.modulePath ∉ files.map AstFile.modulePath) :
    (t.addFile known limit f).Holds known limit (files ++ [f]) := by
  have hadds := adds_foldl_addImport known f.modulePath f.imports t
  have hadjacency := (foldl_addImport known f.modulePath f.imports t).1
  rw [addFile_eq]
  generalize f.imports.foldl (Tally.addImport known f.modulePath) t = read at hadds hadjacency
  have hne : ∀ g ∈ files, g.modulePath ≠ f.modulePath := fun g hg heq => hnew (heq ▸ List.mem_map_of_mem hg)
  constructor
  case nodup => exact hadds.nodup h.nodup
  case uses =>
    rw [List.flatMap_append, ← h.uses, List.flatMap_singleton]
    exact hadds.uses
  case unresolved =>
    rw [List.flatMap_append, ← h.unresolved, List.flatMap_singleton]
    exact hadds.unresolved
  case keys =>
    intro g hg
    dsimp only
    rw [hadjacency, Keyed.get?_insert hsorted]
    rcases List.mem_append.mp hg with hg | hg
    · split
      · rfl
      · exact h.keys g hg
    · rw [List.mem_singleton.mp hg, if_pos rfl]
      rfl
  case sorted =>
    dsimp only
    rw [hadds.fanOut]
    exact Keyed.sorted_insert h.sorted _ _
  case fanOut =>
    intro g hg
    dsimp only
    rw [hadds.fanOut, Keyed.get?_insert h.sorted]
    rcases List.mem_append.mp hg with hg | hg
    · rw [if_neg (hne g hg).symm, h.fanOut g hg, hadds.outgoing_eq (hne g hg)]
    · rw [List.mem_singleton.mp hg, if_pos rfl]
  case findings =>
    have hcoupled : files.flatMap (coupled limit read.edges known) = files.flatMap (coupled limit t.edges known) := by
      apply List.flatMap_congr
      intro g hg
      rw [coupled, coupled, hadds.outgoing_eq (hne g hg)]
    dsimp only
    rw [hadds.findings, h.findings, List.flatMap_append, List.flatMap_singleton, hcoupled]

/-- How many of these files import a package. -/
def users (known : List String) (files : List AstFile) (name : String) : Nat :=
  files.countP fun f => name ∈ externals known f

/-- Where a report has an import of a file. -/
def Accounts (r : Report) (known : List String) (f : AstFile) (i : ImportInfo) : ImportTarget → Prop
  | .file path => Path.resolveImport f.modulePath i.source known = some path ∧ path ≠ f.modulePath ∧
      Depends r.edges f.modulePath path
  | .itself => Path.resolveImport f.modulePath i.source known = some f.modulePath
  | .missing => Path.resolveImport f.modulePath i.source known = none ∧ i.isRelative = true ∧
      (f.modulePath, i.source) ∈ r.unresolved
  | .package name => Path.resolveImport f.modulePath i.source known = none ∧ i.isRelative = false ∧
      packageName i.source = name ∧ (r.packages.get? name).isSome = true

/-- What the parts of a report have to do with each other and with the files of the project. -/
structure Consistent (limit : Nat) (p : Project) (a : Analysis Report) : Prop where
  loops : ∀ e ∈ a.report.edges, e.source ≠ e.target
  ends : (a.report.edges.map Dependency.ends).Nodup
  fanOut : ∀ f ∈ p.parsed, a.report.fanOut.get? f.modulePath = some (outgoing a.report.edges p.paths f)
  fanIn : ∀ f ∈ p.parsed,
    a.report.fanIn.get? f.modulePath = some (a.report.edges.filter fun e => e.target = f.modulePath).length
  packages : ∀ name, a.report.packages.get? name =
    if users p.paths p.parsed name = 0 then none else some (users p.paths p.parsed name)
  imports : ∀ f ∈ p.parsed, ∀ i ∈ f.imports, ∃! target, Accounts a.report p.paths f i target
  unresolved : a.report.unresolved = p.parsed.flatMap (unresolvedImports p.paths)
  coupling : ∀ f ∈ p.parsed, (∃ x ∈ a.findings, x.kind = .highCoupling ∧ x.location.file = f.modulePath) ↔
    limit < outgoing a.report.edges p.paths f
  cycles : ∀ c ∈ a.report.cycles, ClosedWalk (Depends a.report.edges) c ∧ ∀ first ∈ c.head?, ∀ v ∈ c, first ≤ v
  distinct : a.report.cycles.Nodup
  acyclic : a.report.cycles = [] ↔ ∀ v, ¬ Relation.TransGen (Depends a.report.edges) v v

end CodeAudit.Coupling
