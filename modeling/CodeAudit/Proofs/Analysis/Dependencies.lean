import CodeAudit.Analysis.Coupling
import CodeAudit.Proofs.Graph.Imports

/-! The dependency report. Its edges are the imports of a file by another one, and the search for
cycles follows these edges and no others. -/
namespace CodeAudit.Coupling

variable {known : List String} {importer a b : String} {t : Tally} {i : ImportInfo}

/-- There is an edge from `a` to `b`. -/
def Depends (edges : List Dependency) (a b : String) : Prop := ∃ e ∈ edges, e.source = a ∧ e.target = b

theorem depends_append {edges edges' : List Dependency} :
    Depends (edges ++ edges') a b ↔ Depends edges a b ∨ Depends edges' a b := by
  simp only [Depends, List.mem_append, or_and_right, exists_or]

theorem classify_eq_file_iff :
    classify known importer i = .file b ↔ Path.resolveImport importer i.source known = some b ∧ b ≠ importer := by
  unfold classify
  cases Path.resolveImport importer i.source known with
  | none => by_cases hr : i.isRelative <;> simp [hr]
  | some p =>
    by_cases hp : p = importer
    · simp only [hp, if_pos, reduceCtorEq, Option.some.injEq, false_iff, not_and, not_not]
      exact Eq.symm
    · simp only [hp, if_false, ImportTarget.file.injEq, Option.some.injEq, iff_self_and]
      rintro rfl
      exact hp

/-- A second import of the same file changes nothing, so that an edge is there once it was stated. -/
theorem depends_addImport :
    Depends (t.addImport known importer i).edges a b ↔
      Depends t.edges a b ∨ (a = importer ∧ classify known importer i = .file b) := by
  unfold Tally.addImport
  cases hclass : classify known importer i with
  | file target =>
    simp only
    split
    case isTrue hany =>
      obtain ⟨e, he, hsame⟩ := List.any_eq_true.mp hany
      obtain ⟨hsource, htarget⟩ := of_decide_eq_true hsame
      refine ⟨.inl, ?_⟩
      rintro (h | ⟨rfl, hfile⟩)
      · exact h
      · cases hfile
        exact ⟨e, he, hsource, htarget⟩
    case isFalse =>
      rw [depends_append]
      simp [Depends, eq_comm]
  | itself => simp
  | missing => simp
  | package name => simp

theorem adjacency_addImport : (t.addImport known importer i).adjacency = t.adjacency := by
  unfold Tally.addImport
  split
  · split <;> rfl
  · rfl
  · rfl
  · rfl

theorem foldl_addImport (known : List String) (importer : String) (imports : List ImportInfo) (t : Tally) :
    (imports.foldl (Tally.addImport known importer) t).adjacency = t.adjacency ∧
      ∀ a b, Depends (imports.foldl (Tally.addImport known importer) t).edges a b ↔
        Depends t.edges a b ∨ (a = importer ∧ ∃ i ∈ imports, classify known importer i = .file b) := by
  induction imports generalizing t with
  | nil => simp
  | cons i rest ih =>
    obtain ⟨hadjacency, hdepends⟩ := ih (t.addImport known importer i)
    refine ⟨hadjacency.trans adjacency_addImport, ?_⟩
    intro a b
    rw [List.foldl_cons, hdepends, depends_addImport, or_assoc, ← and_or_left]
    simp

/-- What is known of a tally once these files have been read. -/
structure Tally.Reads (known : List String) (files : List AstFile) (t : Tally) : Prop where
  edges : ∀ a b, Depends t.edges a b ↔
    ∃ f ∈ files, f.modulePath = a ∧ ∃ i ∈ f.imports, classify known f.modulePath i = .file b
  sorted : Keyed.Sorted t.adjacency
  adjacency : ∀ a b, t.adjacency.Edge a b ↔ Depends t.edges a b

theorem Tally.Reads.addFile {files : List AstFile} (h : t.Reads known files) (limit : Nat) (f : AstFile) :
    (t.addFile known limit f).Reads known (files ++ [f]) := by
  let t' := f.imports.foldl (Tally.addImport known f.modulePath) t
  obtain ⟨hadjacency, hdepends⟩ := foldl_addImport known f.modulePath f.imports t
  have hedges : (t.addFile known limit f).edges = t'.edges := rfl
  have hget : (t.addFile known limit f).adjacency = t'.adjacency.insert f.modulePath
      (Text.sorted ((t'.edges.filter fun e => e.source = f.modulePath).map (·.target))) := rfl
  refine ⟨?_, ?_, ?_⟩
  · intro a b
    rw [hedges, hdepends, h.edges]
    simp only [List.mem_append, List.mem_singleton, or_and_right, exists_or, exists_eq_left, @eq_comm _ a]
  · rw [hget, hadjacency]
    exact Keyed.sorted_insert h.sorted _ _
  · intro a b
    rw [hedges, Adjacency.Edge, Adjacency.targets, hget, hadjacency, Keyed.get?_insert h.sorted]
    split
    case isTrue ha =>
      subst ha
      rw [Option.getD_some, Text.sorted, List.mem_mergeSort]
      simp only [List.mem_map, List.mem_filter, decide_eq_true_eq, Depends, and_assoc]
    case isFalse ha =>
      -- the imports of this file add no edges that begin elsewhere
      rw [hdepends]
      refine (h.adjacency a b).trans ⟨.inl, ?_⟩
      rintro (hd | ⟨rfl, -⟩)
      · exact hd
      · exact absurd rfl ha

theorem reads_foldl_addFile (known : List String) (limit : Nat) (files : List AstFile) :
    (files.foldl (Tally.addFile known limit) {}).Reads known files := by
  induction files using List.reverseRecOn with
  | nil =>
    refine ⟨?_, Keyed.sorted_nil, ?_⟩
    · simp [Depends]
    · simp [Depends, Adjacency.Edge, Adjacency.targets]
  | append_singleton files f ih =>
    rw [List.foldl_append]
    exact ih.addFile limit f

/-- A report has an edge for each import of a file by another one. -/
theorem depends_analyze_iff (limit : Nat) (p : Project) :
    Depends (analyze limit p).report.edges a b ↔
      ∃ f ∈ p.parsed, f.modulePath = a ∧ b ≠ a ∧
        ∃ i ∈ f.imports, Path.resolveImport a i.source p.paths = some b := by
  refine ((reads_foldl_addFile p.paths limit p.parsed).edges a b).trans ?_
  simp only [classify_eq_file_iff]
  constructor
  · rintro ⟨f, hf, rfl, i, hi, hresolve, hne⟩
    exact ⟨f, hf, rfl, hne, i, hi, hresolve⟩
  · rintro ⟨f, hf, rfl, hne, i, hi, hresolve⟩
    exact ⟨f, hf, rfl, i, hi, hresolve, hne⟩

/-- A report has a cycle exactly if a file depends on itself through others. -/
theorem cycles_analyze_ne_nil_iff (limit : Nat) (p : Project) :
    (analyze limit p).report.cycles ≠ [] ↔
      ∃ v, Relation.TransGen (Depends (analyze limit p).report.edges) v v := by
  let t := p.parsed.foldl (Tally.addFile p.paths limit) {}
  have hreads : t.Reads p.paths p.parsed := reads_foldl_addFile p.paths limit p.parsed
  have hself : ∀ v, ¬ t.adjacency.Edge v v := by
    intro v hv
    obtain ⟨_, -, -, hne, -⟩ := (depends_analyze_iff limit p).mp ((hreads.adjacency v v).mp hv)
    exact hne rfl
  have hlink : t.adjacency.Link = Depends t.edges := by
    funext v w
    rw [eq_iff_iff, Adjacency.Link, hreads.adjacency]
    refine ⟨And.right, fun h => ⟨?_, h⟩⟩
    rintro rfl
    exact hself v ((hreads.adjacency v v).mpr h)
  change (t.adjacency.cycles.map canonicalCycle).eraseDups ≠ [] ↔ ∃ v, Relation.TransGen (Depends t.edges) v v
  rw [← hlink, ← Adjacency.exists_long_cycle_iff, ← Adjacency.cycles_ne_nil_iff hself]
  cases t.adjacency.cycles with
  | nil => simp
  | cons c rest => simp [List.eraseDups_cons]

end CodeAudit.Coupling
