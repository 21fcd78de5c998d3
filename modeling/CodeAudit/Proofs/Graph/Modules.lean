import CodeAudit.Proofs.Graph.Imports
import CodeAudit.Proofs.Graph.Index
import Mathlib.Data.List.Dedup
import Mathlib.Data.List.Perm.Basic

/-! Which files have a module. A module is known by its language and its path without extension; a
file takes the place of an earlier one with the same id, so that every file has a module of its own
exactly if their ids differ. -/
namespace CodeAudit

namespace AstFile

variable {files : List AstFile} {f : AstFile} {id : String}

/-- The last file with a module of this id. -/
def latest? (files : List AstFile) (id : String) : Option AstFile :=
  (files.filter fun f => f.moduleId = id).getLast?

theorem latest?_append (files : List AstFile) (f : AstFile) (id : String) :
    latest? (files ++ [f]) id = if f.moduleId = id then some f else latest? files id := by
  rw [latest?, latest?, List.filter_append]
  by_cases hid : f.moduleId = id <;> simp [hid]

theorem moduleId_of_latest? (h : latest? files id = some f) : f ∈ files ∧ f.moduleId = id := by
  simpa using List.mem_of_getLast? h

theorem latest?_isSome : (latest? files id).isSome = true ↔ id ∈ files.map moduleId := by
  simp [latest?]

/-- Files with ids of their own are the last with them. -/
theorem latest?_moduleId (hids : (files.map moduleId).Nodup) (hf : f ∈ files) :
    latest? files f.moduleId = some f := by
  obtain ⟨h, hh⟩ := Option.isSome_iff_exists.mp (latest?_isSome.mpr (List.mem_map_of_mem hf))
  obtain ⟨hmem, hid⟩ := moduleId_of_latest? hh
  rw [hh, List.inj_on_of_nodup_map hids hmem hf hid]

end AstFile

namespace GraphDraft

variable {d : GraphDraft} {files : List AstFile}

/-- The module under an id, if what is there is one. -/
def module? (d : GraphDraft) (id : String) : Option Entity :=
  (d.nodes.get? id).filter fun e => e.kind = .moduleFile

theorem module?_declare (h : d.Typed) {s : GraphScope} {kind : EntityKind} (name : String) {n : AstNode}
    (hkind : EntityKind.ofNode? n.kind = some kind) {k : String}
    (hk : (d.counts.allocate (s.baseId name)).1 = k) (id : String) :
    (d.declare s kind name n).2.module? id = if k = id then none else d.module? id := by
  have hnot : kind ≠ .moduleFile := by
    rintro rfl
    cases hn : n.kind <;> simp [hn, EntityKind.ofNode?] at hkind
  subst hk
  rw [declare_snd, module?, module?, Keyed.get?_insert h.nodes]
  split
  · simp [Entity.ofNode, hnot]
  · rfl

/-- No file has the id of a declaration, which has a double colon in it. -/
def Plain (files : List AstFile) : Prop := ∀ f ∈ files, Text.contains f.moduleId "::" = false

theorem Plain.latest?_eq_none (h : Plain files) (a b : String) : AstFile.latest? files (a ++ "::" ++ b) = none := by
  rw [← Option.not_isSome_iff_eq_none, AstFile.latest?_isSome, List.mem_map]
  rintro ⟨f, hf, hid⟩
  have hcontains := Text.contains_append a "::" b
  rw [← hid, h f hf] at hcontains
  cases hcontains

theorem addFiles_module? (hpaths : (files.map AstFile.modulePath).Nodup) (hplain : Plain files) (id : String) :
    (addFiles {} files).module? id = (AstFile.latest? files id).map AstFile.moduleEntity := by
  induction files using List.reverseRecOn generalizing id with
  | nil => rfl
  | append_singleton files f ih =>
    obtain ⟨hpaths, hnew⟩ := AstFile.nodup_map_concat.mp hpaths
    have hd := ih hpaths fun f hf => hplain f (List.mem_append_left _ hf)
    rw [addFiles_concat, addFile_of_notMem (by rwa [(addFiles_gathered hpaths).mem_keys])]
    -- a walk writes under ids of declarations, where no module stands before or after
    refine (walkAll_induction
      (P := fun e => e.Typed ∧ ∀ id, e.module? id = (AstFile.latest? (files ++ [f]) id).map AstFile.moduleEntity)
      ?_ ?_ (.refl f.moduleScope) ⟨(addFiles_typed files).addModule f, ?_⟩ f.root.children).2 id
    · rintro s d callee - ⟨htyped, hmodules⟩
      exact ⟨{ htyped with }, hmodules⟩
    · rintro s d kind name n hs hkind ⟨htyped, hmodules⟩
      refine ⟨htyped.declare _ _ _ _, fun id => ?_⟩
      obtain ⟨rest, hrest⟩ := allocate_within hs d.counts name
      rw [module?_declare htyped name hkind hrest, hmodules]
      split
      · subst id
        rw [hplain.latest?_eq_none]
        rfl
      · rfl
    · intro id
      rw [AstFile.latest?_append, module?, addModule, Keyed.get?_insert (addFiles_typed files).nodes]
      split
      · rfl
      · exact hd id

/-- What lies outside takes no module's place. -/
theorem module?_addExternals (h : d.Typed) (id : String) : d.addExternals.module? id = d.module? id := by
  rw [module?, module?, get?_addExternals h]
  cases d.nodes.get? id with
  | some e => rfl
  | none =>
    cases d.outsideSpecifiers.find? fun s => Entity.externalId s = id <;> rfl

end GraphDraft

namespace CodeGraph

variable {files : List AstFile}

/-- Every file has a module of its own, with its hash and its place, and a module imports itself only if
its file does. -/
structure KeepsFiles (g : CodeGraph) (files : List AstFile) : Prop where
  modules : ∃ modules : List Entity, modules.Perm (g.ofKind .moduleFile) ∧
    List.Forall₂ (fun f e => e.contentHash = f.contentHash ∧ e.location = f.root.location) files modules
  loops : ∀ id, g.ImportEdge id id → ∃ f ∈ files, f.moduleId = id ∧ f.Imports files f

theorem mem_nodes_module_iff (hpaths : (files.map AstFile.modulePath).Nodup) (hplain : GraphDraft.Plain files)
    {id : String} {e : Entity} :
    ((id, e) ∈ (ofFiles files).nodes ∧ e.kind = .moduleFile) ↔
      (AstFile.latest? files id).map AstFile.moduleEntity = some e := by
  have htyped := GraphDraft.addFiles_typed files
  rw [← GraphDraft.addFiles_module? hpaths hplain, ← GraphDraft.module?_addExternals htyped, GraphDraft.module?,
    Option.filter_eq_some_iff, ← Keyed.mem_iff_get? (GraphDraft.sorted_addExternals htyped), decide_eq_true_eq]
  rfl

/-- The modules of a graph are those of the files that no later one replaces. -/
theorem mem_modules_iff (hpaths : (files.map AstFile.modulePath).Nodup) (hplain : GraphDraft.Plain files) {e : Entity} :
    e ∈ (ofFiles files).ofKind .moduleFile ↔
      ∃ f, AstFile.latest? files f.moduleId = some f ∧ f.moduleEntity = e := by
  have hmem : e ∈ (ofFiles files).ofKind .moduleFile ↔
      ∃ id, (id, e) ∈ (ofFiles files).nodes ∧ e.kind = .moduleFile := by
    simp [(ordered_ofFiles files).ofKind_eq_filter, entities, Keyed.values]
  rw [hmem]
  simp only [mem_nodes_module_iff hpaths hplain, Option.map_eq_some_iff]
  constructor
  · rintro ⟨id, f, hf, rfl⟩
    rw [← (AstFile.moduleId_of_latest? hf).2] at hf
    exact ⟨f, hf, rfl⟩
  · rintro ⟨f, hf, rfl⟩
    exact ⟨f.moduleId, f, hf, rfl⟩

theorem nodup_modules (hpaths : (files.map AstFile.modulePath).Nodup) (hplain : GraphDraft.Plain files) :
    (((ofFiles files).ofKind .moduleFile).map Entity.id).Nodup := by
  have hsorted : Keyed.Sorted (ofFiles files).nodes :=
    GraphDraft.sorted_addExternals (GraphDraft.addFiles_typed files)
  have hkeys : ((ofFiles files).ofKind .moduleFile).map Entity.id =
      ((ofFiles files).nodes.filter fun e => e.2.kind = .moduleFile).map Prod.fst := by
    rw [(ordered_ofFiles files).ofKind_eq_filter, entities, Keyed.values, List.filter_map, List.map_map]
    refine List.map_congr_left ?_
    rintro ⟨id, e⟩ he
    obtain ⟨hmem, hkind⟩ := List.mem_filter.mp he
    obtain ⟨f, hf, rfl⟩ := Option.map_eq_some_iff.mp
      ((mem_nodes_module_iff hpaths hplain).mp ⟨hmem, of_decide_eq_true hkind⟩)
    exact (AstFile.moduleId_of_latest? hf).2
  rw [hkeys, List.Nodup, List.pairwise_map]
  exact (hsorted.filter _).imp fun hlt => hlt.ne

/-- There are as many modules as ids. -/
theorem perm_moduleIds (hpaths : (files.map AstFile.modulePath).Nodup) (hplain : GraphDraft.Plain files) :
    (((ofFiles files).ofKind .moduleFile).map Entity.id).Perm (files.map AstFile.moduleId).dedup := by
  refine (List.perm_ext_iff_of_nodup (nodup_modules hpaths hplain) (List.nodup_dedup _)).mpr fun id => ?_
  rw [List.mem_dedup, ← AstFile.latest?_isSome, Option.isSome_iff_exists, List.mem_map]
  constructor
  · rintro ⟨e, he, rfl⟩
    obtain ⟨f, hf, rfl⟩ := (mem_modules_iff hpaths hplain).mp he
    exact ⟨f, hf⟩
  · rintro ⟨f, hf⟩
    obtain ⟨-, rfl⟩ := AstFile.moduleId_of_latest? hf
    exact ⟨f.moduleEntity, (mem_modules_iff hpaths hplain).mpr ⟨f, hf, rfl⟩, rfl⟩

theorem perm_moduleEntities (hpaths : (files.map AstFile.modulePath).Nodup) (hplain : GraphDraft.Plain files)
    (hids : (files.map AstFile.moduleId).Nodup) :
    (files.map AstFile.moduleEntity).Perm ((ofFiles files).ofKind .moduleFile) := by
  have hnodup : (files.map AstFile.moduleEntity).Nodup := by
    refine List.Nodup.of_map Entity.id ?_
    rwa [List.map_map]
  refine (List.perm_ext_iff_of_nodup hnodup (nodup_modules hpaths hplain).of_map).mpr fun e => ?_
  rw [mem_modules_iff hpaths hplain, List.mem_map]
  constructor
  · rintro ⟨f, hf, rfl⟩
    exact ⟨f, AstFile.latest?_moduleId hids hf, rfl⟩
  · rintro ⟨f, hf, rfl⟩
    exact ⟨f, (AstFile.moduleId_of_latest? hf).1, rfl⟩

/-- If a module imports itself without its file doing so, two files share its id. -/
theorem imports_self_of_loop (hpaths : (files.map AstFile.modulePath).Nodup) (hids : (files.map AstFile.moduleId).Nodup)
    {id : String} (h : (ofFiles files).ImportEdge id id) : ∃ f ∈ files, f.moduleId = id ∧ f.Imports files f := by
  obtain ⟨f, hf, rfl, -⟩ := (importEdge_iff hpaths).mp h
  exact ⟨f, hf, rfl, (importEdge_moduleId_iff hpaths hids hf hf).mp h⟩

/-- Every file keeps a module of its own exactly if the ids of the files differ. In any case there is
one module for each id, that of the last file with it, and an import of a file leads from the id of
one to the id of the other, be they the same or not. -/
theorem files_kept_iff_ids_differ (hpaths : (files.map AstFile.modulePath).Nodup) (hplain : GraphDraft.Plain files) :
    let g := ofFiles files
    (g.KeepsFiles files ↔ (files.map AstFile.moduleId).Nodup) ∧
      (g.ofKind .moduleFile).length = (files.map AstFile.moduleId).dedup.length ∧
      (∀ e, e ∈ g.ofKind .moduleFile ↔ ∃ f, AstFile.latest? files f.moduleId = some f ∧ f.moduleEntity = e) ∧
      ∀ f ∈ files, ∀ h ∈ files, f.Imports files h → g.ImportEdge f.moduleId h.moduleId := by
  have hcount : ((ofFiles files).ofKind .moduleFile).length = (files.map AstFile.moduleId).dedup.length := by
    rw [← (perm_moduleIds hpaths hplain).length_eq, List.length_map]
  refine ⟨⟨?_, ?_⟩, hcount, fun e => mem_modules_iff hpaths hplain, ?_⟩
  · rintro ⟨⟨modules, hperm, hmodules⟩, -⟩
    have hlength : (files.map AstFile.moduleId).dedup.length = (files.map AstFile.moduleId).length := by
      rw [← hcount, ← hperm.length_eq, ← hmodules.length_eq, List.length_map]
    rw [← (List.dedup_sublist (files.map AstFile.moduleId)).eq_of_length hlength]
    exact List.nodup_dedup _
  · intro hids
    refine ⟨⟨files.map AstFile.moduleEntity, perm_moduleEntities hpaths hplain hids, ?_⟩, ?_⟩
    · rw [List.forall₂_map_right_iff, List.forall₂_same]
      exact fun f _ => ⟨rfl, rfl⟩
    · exact fun id h => imports_self_of_loop hpaths hids h
  · intro f hf h hh himports
    exact (importEdge_iff hpaths).mpr ⟨f, hf, rfl, .inl ⟨h, hh, rfl, himports⟩⟩

/-- Files that differ in their extension have modules of their own if their languages differ. -/
theorem languages_keep_files_apart :
    let files : List AstFile :=
      [.ofImports "pkg/models.py" .python [], .ofImports "pkg/models.ts" .typescript ["./models.py"]]
    (files.map AstFile.modulePath).Nodup ∧ GraphDraft.Plain files ∧ (ofFiles files).KeepsFiles files := by
  intro files
  have hpaths : (files.map AstFile.modulePath).Nodup := by decide +kernel
  have hplain : GraphDraft.Plain files := by
    unfold GraphDraft.Plain
    decide +kernel
  exact ⟨hpaths, hplain, (files_kept_iff_ids_differ hpaths hplain).1.mpr (by decide +kernel)⟩

/-- A module of Python and the stub beside it, which imports it. -/
def stubbedFiles : List AstFile :=
  [.ofImports "pkg/models.py" .python [], .ofImports "pkg/models.pyi" .python [".models"]]

/-- A stub takes the place of its module, and what it imports from there becomes an import of itself. -/
theorem stub_replaces_module :
    (stubbedFiles.map AstFile.modulePath).Nodup ∧ ((ofFiles stubbedFiles).ofKind .moduleFile).length = 1 ∧
      (ofFiles stubbedFiles).ImportEdge "python:pkg/models" "python:pkg/models" ∧
      (∀ f ∈ stubbedFiles, ¬ f.Imports stubbedFiles f) ∧ ¬ (ofFiles stubbedFiles).KeepsFiles stubbedFiles := by
  have hone : ((ofFiles stubbedFiles).ofKind .moduleFile).length = 1 := by decide +kernel
  refine ⟨by decide +kernel, hone, ?_, ?_, ?_⟩
  · unfold ImportEdge
    decide +kernel
  · unfold AstFile.Imports
    decide +kernel
  · rintro ⟨⟨modules, hperm, hmodules⟩, -⟩
    have htwo := hmodules.length_eq.trans hperm.length_eq
    rw [hone] at htwo
    cases htwo

end CodeGraph
end CodeAudit
