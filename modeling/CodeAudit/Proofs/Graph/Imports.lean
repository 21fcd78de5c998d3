import CodeAudit.Proofs.Graph.Draft
import CodeAudit.Proofs.Graph.Search
import CodeAudit.Proofs.Path

/-! The imports of a graph: an edge stands between two modules exactly if an import leads from one to
the other. -/
namespace CodeAudit

/-- The file `f` has an import that leads to the file `h`. -/
def AstFile.Imports (files : List AstFile) (f h : AstFile) : Prop :=
  ∃ i ∈ f.imports, Path.resolveImport f.modulePath i.source (files.map AstFile.modulePath) = some h.modulePath

/-- A file of which only the imports matter. -/
def AstFile.ofImports (path : String) (language : Language) (sources : List String) : AstFile where
  path := path
  language := language
  root := { kind := .moduleScope, location := Location.fileStart path }
  imports := sources.map fun source => .new source 1
  contentHash := Digest.ofParts sources
  fidelity := .full

namespace GraphDraft

variable {d : GraphDraft} {files : List AstFile} {f : AstFile}

/-- A draft whose modules and imports are those of files with paths of their own. -/
structure Gathered (files : List AstFile) (d : GraphDraft) : Prop where
  imports : d.imports = files.flatMap AstFile.importReferences
  sorted : Keyed.Sorted d.modules
  modules : ∀ p id, d.modules.get? p = some id ↔ ∃ f ∈ files, f.modulePath = p ∧ f.moduleId = id

theorem Gathered.mem_keys (hd : Gathered files d) {p : String} :
    p ∈ d.modules.keys ↔ p ∈ files.map AstFile.modulePath := by
  rw [← not_iff_not, ← Keyed.get?_eq_none_iff, Option.eq_none_iff_forall_ne_some, List.mem_map]
  simp only [ne_eq, hd.modules]
  constructor
  · rintro h ⟨f, hf, hp⟩
    exact h f.moduleId ⟨f, hf, hp, rfl⟩
  · rintro h id ⟨f, hf, hp, -⟩
    exact h ⟨f, hf, hp⟩

theorem addFiles_gathered (h : (files.map AstFile.modulePath).Nodup) : Gathered files (addFiles {} files) := by
  induction files using List.reverseRecOn with
  | nil => exact ⟨rfl, Keyed.sorted_nil, by simp [addFiles]⟩
  | append_singleton files f ih =>
    obtain ⟨hpaths, hnew⟩ := AstFile.nodup_map_concat.mp h
    have hd := ih hpaths
    rw [addFiles_concat, addFile_of_notMem (by rwa [hd.mem_keys])]
    obtain ⟨hmodules, himports⟩ := walkAll_frame f.moduleScope ((addFiles {} files).addModule f) f.root.children
    refine ⟨?_, ?_, ?_⟩
    · rw [himports, List.flatMap_append, ← hd.imports]
      simp [addModule]
    · rw [hmodules]
      exact Keyed.sorted_insert hd.sorted _ _
    · intro p id
      rw [hmodules, addModule, Keyed.get?_insert hd.sorted]
      simp only [List.mem_append, List.mem_singleton, or_and_right, exists_or, exists_eq_left, ← hd.modules]
      split
      case isTrue hp =>
        have hnone : (addFiles {} files).modules.get? p = none := by
          rwa [Keyed.get?_eq_none_iff, hd.mem_keys, ← hp]
        simp [hnone, hp]
      case isFalse hp => simp [hp]

/-- An import that leads to a file leads to its module. -/
theorem Gathered.importTarget_of_some (hd : Gathered files d) {h : AstFile} (hh : h ∈ files) {i : ImportInfo}
    (hresolve : Path.resolveImport f.modulePath i.source (files.map AstFile.modulePath) = some h.modulePath) :
    d.importTarget ⟨f.moduleId, f.modulePath, i⟩ = h.moduleId := by
  have hmodule : d.importedModule? ⟨f.moduleId, f.modulePath, i⟩ = some h.moduleId := by
    simp only [importedModule?]
    rw [Path.resolveImport_congr fun p => hd.mem_keys, hresolve, Option.bind_some, hd.modules]
    exact ⟨h, hh, rfl, rfl⟩
  rw [importTarget, hmodule]
  rfl

theorem Gathered.importTarget_of_none (hd : Gathered files d) {i : ImportInfo}
    (hresolve : Path.resolveImport f.modulePath i.source (files.map AstFile.modulePath) = none) :
    d.importTarget ⟨f.moduleId, f.modulePath, i⟩ = Entity.externalId i.source := by
  have hmodule : d.importedModule? ⟨f.moduleId, f.modulePath, i⟩ = none := by
    simp only [importedModule?]
    rw [Path.resolveImport_congr fun p => hd.mem_keys, hresolve]
    rfl
  rw [importTarget, hmodule]
  rfl

/-- The ends of the edge that an import adds to. -/
def endsOf (d : GraphDraft) (r : ImportReference) : Ends := ⟨r.moduleId, d.importTarget r⟩

instance : IsStrictTotalOrder Ends (· < ·) where
  irrefl a h := by
    rcases h with h | ⟨-, h⟩ <;> exact irrefl _ h
  trans a b c hab hbc := by
    rcases hab with hab | ⟨hab, hab'⟩ <;> rcases hbc with hbc | ⟨hbc, hbc'⟩
    · exact .inl (hab.trans hbc)
    · exact .inl (hbc ▸ hab)
    · exact .inl (hab ▸ hbc)
    · exact .inr ⟨hab.trans hbc, hab'.trans hbc'⟩
  trichotomous a b hab hba := by
    obtain ⟨as, at'⟩ := a
    obtain ⟨bs, bt⟩ := b
    rcases lt_trichotomy as bs with h | h | h
    · exact absurd (.inl h) hab
    · subst h
      rcases lt_trichotomy at' bt with h | h | h
      · exact absurd (.inr ⟨rfl, h⟩) hab
      · rw [h]
      · exact absurd (.inr ⟨rfl, h⟩) hba
    · exact absurd (.inl h) hba

/-- The import edges by their ends. -/
def mergedImports (d : GraphDraft) : Keyed Ends Relation :=
  d.imports.foldl (fun m r => m.alter (d.endsOf r) (mergeImport r (d.endsOf r))) []

theorem importEdges_eq (d : GraphDraft) : d.importEdges = d.mergedImports.values := rfl

theorem sorted_mergedImports (d : GraphDraft) : Keyed.Sorted d.mergedImports :=
  Keyed.sorted_foldl_alter _ _ _ Keyed.sorted_nil

theorem get?_mergedImports (d : GraphDraft) (e : Ends) :
    d.mergedImports.get? e =
      (d.imports.filter fun r => d.endsOf r = e).foldl (fun old r => some (mergeImport r (d.endsOf r) old)) none :=
  Keyed.get?_foldl_alter d.endsOf (fun r => mergeImport r (d.endsOf r)) d.imports Keyed.sorted_nil e

/-- An edge with these ends that stands for imports. -/
structure IsImport (e : Ends) (r : Relation) : Prop where
  kind : r.kind = .imports
  source : r.source = e.source
  target : r.target = e.target

/-- Imports with the same ends give one edge, and none if there are none. -/
theorem foldl_mergeImport {e : Ends} {rs : List ImportReference} (hrs : ∀ r ∈ rs, d.endsOf r = e)
    {old : Option Relation} (hold : ∀ x ∈ old, IsImport e x) :
    let merged := rs.foldl (fun old r => some (mergeImport r (d.endsOf r) old)) old
    (∀ x ∈ merged, IsImport e x) ∧ (merged.isSome = true ↔ rs ≠ [] ∨ old.isSome = true) := by
  induction rs generalizing old with
  | nil => exact ⟨hold, by simp⟩
  | cons r rest ih =>
    have hnew : ∀ x ∈ some (mergeImport r (d.endsOf r) old), IsImport e x := by
      intro x hx
      cases hx
      rw [hrs r List.mem_cons_self]
      cases old with
      | none => exact ⟨rfl, rfl, rfl⟩
      | some x => exact { hold x rfl with }
    obtain ⟨hall, hsome⟩ := ih (fun r hr => hrs r (List.mem_cons_of_mem _ hr)) hnew
    refine ⟨hall, ?_⟩
    simp only [List.foldl_cons]
    rw [hsome]
    simp

theorem get?_mergedImports_isImport {e : Ends} {x : Relation} (h : d.mergedImports.get? e = some x) : IsImport e x := by
  rw [get?_mergedImports] at h
  exact (foldl_mergeImport (by simp) (by simp)).1 x h

theorem get?_mergedImports_isSome {e : Ends} :
    (d.mergedImports.get? e).isSome = true ↔ ∃ r ∈ d.imports, d.endsOf r = e := by
  rw [get?_mergedImports, (foldl_mergeImport (e := e) (by simp) (by simp)).2]
  simp

theorem kind_of_mem_importEdges {r : Relation} (h : r ∈ d.importEdges) : r.kind = .imports := by
  obtain ⟨⟨e, _⟩, hmem, rfl⟩ := List.mem_map.mp h
  exact (get?_mergedImports_isImport (Keyed.get?_of_mem d.sorted_mergedImports hmem)).kind

/-- There is an edge between two modules exactly if an import leads from one to the other. -/
theorem exists_importEdge_iff {a b : String} :
    (∃ r ∈ d.importEdges, r.source = a ∧ r.target = b) ↔ ∃ i ∈ d.imports, i.moduleId = a ∧ d.importTarget i = b := by
  constructor
  · rintro ⟨_, h, rfl, rfl⟩
    obtain ⟨⟨e, x⟩, hmem, rfl⟩ := List.mem_map.mp h
    have hget := Keyed.get?_of_mem d.sorted_mergedImports hmem
    have himport := get?_mergedImports_isImport hget
    obtain ⟨i, hi, rfl⟩ := get?_mergedImports_isSome.mp (Option.isSome_iff_exists.mpr ⟨x, hget⟩)
    exact ⟨i, hi, himport.source.symm, himport.target.symm⟩
  · rintro ⟨i, hi, rfl, rfl⟩
    obtain ⟨x, hget⟩ := Option.isSome_iff_exists.mp (get?_mergedImports_isSome.mpr ⟨i, hi, rfl⟩)
    have himport := get?_mergedImports_isImport hget
    exact ⟨x, List.mem_map.mpr ⟨_, Keyed.mem_of_get? hget, rfl⟩, himport.source, himport.target⟩

theorem kind_of_mem_heritageEdges (h : ∀ x ∈ d.heritage, x.kind = .inherits ∨ x.kind = .implements) {r : Relation}
    (hr : r ∈ d.heritageEdges) : r.kind = .inherits ∨ r.kind = .implements := by
  obtain ⟨x, hx, hr⟩ := List.mem_filterMap.mp hr
  split at hr
  · split at hr
    · cases hr
    · cases hr
      exact h x hx
  · cases hr

theorem kind_of_mem_callEdges {r : Relation} (h : r ∈ d.callEdges) : r.kind = .calls := by
  obtain ⟨_, -, rfl⟩ := List.mem_map.mp h
  rfl

theorem filter_kind_eq_self {rs : List Relation} {kind : RelationKind} (h : ∀ r ∈ rs, r.kind = kind) :
    (rs.filter fun r => r.kind = kind) = rs := by
  rw [List.filter_eq_self]
  intro r hr
  simp [h r hr]

theorem filter_kind_eq_nil {rs : List Relation} {kind : RelationKind} (h : ∀ r ∈ rs, r.kind ≠ kind) :
    (rs.filter fun r => r.kind = kind) = [] := by
  rw [List.filter_eq_nil_iff]
  intro r hr
  simp [h r hr]

/-- The edges of a graph stand sort after sort. -/
theorem edges_build (d : GraphDraft) : d.build.edges =
    d.compositions ++ d.importEdges ++ d.addExternals.heritageEdges ++ d.addExternals.callEdges := rfl

theorem Typed.heritage_ne (h : d.Typed) {kind : RelationKind} (hinherits : kind ≠ .inherits)
    (himplements : kind ≠ .implements) {r : Relation} (hr : r ∈ d.addExternals.heritageEdges) : r.kind ≠ kind := by
  rintro rfl
  rcases kind_of_mem_heritageEdges (d := d.addExternals) h.heritage hr with hkind | hkind
  · exact hinherits hkind
  · exact himplements hkind

/-- Of the edges of a graph those of imports are the ones that imports gave. -/
theorem Typed.filter_imports (h : d.Typed) : (d.build.edges.filter fun r => r.kind = .imports) = d.importEdges := by
  have hcompositions : ∀ r ∈ d.compositions, r.kind ≠ .imports := fun r hr => by simp [h.compositions r hr]
  have hcalls : ∀ r ∈ d.addExternals.callEdges, r.kind ≠ .imports := fun r hr => by simp [kind_of_mem_callEdges hr]
  rw [edges_build, List.filter_append, List.filter_append, List.filter_append, filter_kind_eq_nil hcompositions,
    filter_kind_eq_self fun _ => kind_of_mem_importEdges,
    filter_kind_eq_nil fun _ => h.heritage_ne (by decide) (by decide), filter_kind_eq_nil hcalls]
  simp

/-- Likewise those of compositions. -/
theorem Typed.filter_composes (h : d.Typed) : (d.build.edges.filter fun r => r.kind = .composes) = d.compositions := by
  have himports : ∀ r ∈ d.importEdges, r.kind ≠ .composes := fun r hr => by simp [kind_of_mem_importEdges hr]
  have hcalls : ∀ r ∈ d.addExternals.callEdges, r.kind ≠ .composes := fun r hr => by simp [kind_of_mem_callEdges hr]
  rw [edges_build, List.filter_append, List.filter_append, List.filter_append, filter_kind_eq_self h.compositions,
    filter_kind_eq_nil himports, filter_kind_eq_nil fun _ => h.heritage_ne (by decide) (by decide),
    filter_kind_eq_nil hcalls]
  simp

/-- Likewise those of calls. -/
theorem Typed.filter_calls (h : d.Typed) :
    (d.build.edges.filter fun r => r.kind = .calls) = d.addExternals.callEdges := by
  have hcompositions : ∀ r ∈ d.compositions, r.kind ≠ .calls := fun r hr => by simp [h.compositions r hr]
  have himports : ∀ r ∈ d.importEdges, r.kind ≠ .calls := fun r hr => by simp [kind_of_mem_importEdges hr]
  rw [edges_build, List.filter_append, List.filter_append, List.filter_append, filter_kind_eq_nil hcompositions,
    filter_kind_eq_nil himports, filter_kind_eq_nil fun _ => h.heritage_ne (by decide) (by decide),
    filter_kind_eq_self fun _ => kind_of_mem_callEdges]
  simp

end GraphDraft

/-- No module has the id of something outside. -/
theorem AstFile.moduleId_ne_externalId (f : AstFile) (specifier : String) : f.moduleId ≠ Entity.externalId specifier := by
  intro h
  have hhead := congrArg (fun s : String => s.toList.head?) h
  simp only [moduleId, Entity.externalId, String.toList_append] at hhead
  cases hl : f.language <;> simp [hl, Language.name] at hhead

namespace CodeGraph

variable {files : List AstFile} {a b : String}

/-- An edge that stands for imports of `b` by `a`. -/
def ImportEdge (g : CodeGraph) (a b : String) : Prop :=
  ∃ r ∈ g.edges, r.kind = .imports ∧ r.source = a ∧ r.target = b

theorem importEdge_ofFiles :
    (ofFiles files).ImportEdge a b ↔
      ∃ i ∈ (GraphDraft.addFiles {} files).imports,
        i.moduleId = a ∧ (GraphDraft.addFiles {} files).importTarget i = b := by
  rw [← GraphDraft.exists_importEdge_iff, ← (GraphDraft.addFiles_typed files).filter_imports]
  simp only [ImportEdge, ofFiles, List.mem_filter, decide_eq_true_eq, and_assoc]

/-- Import edges lead from a file to a file that it imports or to something outside. -/
theorem importEdge_iff (hpaths : (files.map AstFile.modulePath).Nodup) :
    (ofFiles files).ImportEdge a b ↔
      ∃ f ∈ files, f.moduleId = a ∧
        ((∃ h ∈ files, h.moduleId = b ∧ f.Imports files h) ∨ ∃ i ∈ f.imports, Entity.externalId i.source = b ∧
          Path.resolveImport f.modulePath i.source (files.map AstFile.modulePath) = none) := by
  have hd := GraphDraft.addFiles_gathered hpaths
  rw [importEdge_ofFiles, hd.imports]
  simp only [List.mem_flatMap, AstFile.importReferences, List.mem_map]
  constructor
  · rintro ⟨_, ⟨f, hf, i, hi, rfl⟩, rfl, rfl⟩
    refine ⟨f, hf, rfl, ?_⟩
    cases hresolve : Path.resolveImport f.modulePath i.source (files.map AstFile.modulePath) with
    | none => exact .inr ⟨i, hi, (hd.importTarget_of_none hresolve).symm, hresolve⟩
    | some p =>
      obtain ⟨h, hh, rfl⟩ := List.mem_map.mp (Path.mem_of_resolveImport hresolve)
      exact .inl ⟨h, hh, (hd.importTarget_of_some hh hresolve).symm, i, hi, hresolve⟩
  · rintro ⟨f, hf, rfl, ⟨h, hh, rfl, i, hi, hresolve⟩ | ⟨i, hi, rfl, hresolve⟩⟩
    · exact ⟨_, ⟨f, hf, i, hi, rfl⟩, rfl, hd.importTarget_of_some hh hresolve⟩
    · exact ⟨_, ⟨f, hf, i, hi, rfl⟩, rfl, hd.importTarget_of_none hresolve⟩

/-- Between the modules of files, import edges are the imports of the files. -/
theorem importEdge_moduleId_iff (hpaths : (files.map AstFile.modulePath).Nodup)
    (hids : (files.map AstFile.moduleId).Nodup) {f h : AstFile} (hf : f ∈ files) (hh : h ∈ files) :
    (ofFiles files).ImportEdge f.moduleId h.moduleId ↔ f.Imports files h := by
  rw [importEdge_iff hpaths]
  constructor
  · rintro ⟨f', hf', hid, ⟨h', hh', hid', himports⟩ | ⟨i, -, hid', -⟩⟩
    · rw [List.inj_on_of_nodup_map hids hf' hf hid, List.inj_on_of_nodup_map hids hh' hh hid'] at himports
      exact himports
    · exact absurd hid'.symm (h.moduleId_ne_externalId i.source)
  · intro himports
    exact ⟨f, hf, rfl, .inl ⟨h, hh, rfl, himports⟩⟩

/-- Appending under one key keeps everything in its order. -/
theorem getD_foldl_append (rs : List Relation) (old : Option (List String)) :
    (rs.foldl (fun ts r => some (ts.getD [] ++ [r.target])) old).getD [] = old.getD [] ++ rs.map (·.target) := by
  induction rs generalizing old with
  | nil => simp
  | cons r rest ih => simp [ih]

theorem targets_importAdjacency (g : CodeGraph) (a : String) :
    g.importAdjacency.targets a =
      Text.sorted (((g.edges.filter fun r => r.kind = .imports).filter fun r => r.source = a).map (·.target)) := by
  let modules : Adjacency := Keyed.ofList (g.modules.map fun e => (e.id, ([] : List String)))
  let imported : Adjacency := (g.edges.filter fun r => r.kind = .imports).foldl
    (fun (m : Adjacency) r => m.alter r.source fun ts => ts.getD [] ++ [r.target]) modules
  have hmodules : (modules.get? a).getD [] = [] := by
    cases hget : modules.get? a with
    | none => rfl
    | some ts =>
      obtain ⟨_, -, h⟩ := List.mem_map.mp (Keyed.mem_of_get?_ofList hget)
      exact (congrArg Prod.snd h).symm
  have hsorted : g.importAdjacency.get? a = (imported.get? a).map Text.sorted :=
    Keyed.get?_map (fun _ ts => Text.sorted ts) imported a
  have hget : (imported.get? a).getD [] =
      ((g.edges.filter fun r => r.kind = .imports).filter fun r => r.source = a).map (·.target) := by
    have hfold := Keyed.get?_foldl_alter Relation.source (fun r ts => ts.getD [] ++ [r.target])
      (g.edges.filter fun r => r.kind = .imports) (Keyed.sorted_ofList _ : Keyed.Sorted modules) a
    rw [hfold, getD_foldl_append, hmodules, List.nil_append]
  rw [Adjacency.targets, hsorted, ← hget]
  cases imported.get? a with
  | none => simp [Text.sorted]
  | some ts => rfl

/-- What the search for cycles follows are the import edges. -/
theorem edge_importAdjacency_iff (g : CodeGraph) : g.importAdjacency.Edge a b ↔ g.ImportEdge a b := by
  rw [Adjacency.Edge, targets_importAdjacency, Text.sorted, List.mem_mergeSort]
  simp only [List.mem_map, List.mem_filter, decide_eq_true_eq, ImportEdge, and_assoc]

end CodeGraph
end CodeAudit
