import CodeAudit.Proofs.Graph.Assembly
import CodeAudit.Proofs.Graph.Index

/-! The graph of a project does not depend on the order in which its files are added. A draft keeps the
order of the files in its lists only; what is resolved from them at the end is read off maps, or off
the imports of one module at a time, which all come from one file. -/
namespace CodeAudit

/-- If no two members both give something, what they give together does not depend on their order. -/
theorem flatMap_eq_of_perm {α β : Type} {xs ys : List α} {g : α → List β} (h : xs.Perm ys)
    (hone : xs.Pairwise fun x y => g x = [] ∨ g y = []) : xs.flatMap g = ys.flatMap g := by
  induction h with
  | nil => rfl
  | cons x _ ih => rw [List.flatMap_cons, List.flatMap_cons, ih (List.pairwise_cons.mp hone).2]
  | swap x y rest =>
    rcases (List.pairwise_cons.mp hone).1 x List.mem_cons_self with hy | hx
    · simp [hy]
    · simp [hx]
  | trans hxy _ ih ih' =>
    refine (ih hone).trans (ih' ?_)
    exact (hxy.pairwise_iff fun h => h.symm).mp hone

namespace GraphDraft

variable {d d' : GraphDraft} {files files' : List AstFile}

/-- Two drafts of the same files: what is kept by key is the same, and the imports of a module come in
the same order. -/
structure Rearranged (d d' : GraphDraft) : Prop where
  nodes : d.nodes = d'.nodes
  modules : d.modules = d'.modules
  imports : ∀ id, (d.imports.filter fun r => r.moduleId = id) = d'.imports.filter fun r => r.moduleId = id
  compositions : d.compositions.Perm d'.compositions
  heritage : d.heritage.Perm d'.heritage
  calls : d.calls.Perm d'.calls

theorem filter_importReferences {f : AstFile} {id : String} (h : f.moduleId ≠ id) :
    (f.importReferences.filter fun r => r.moduleId = id) = [] := by
  rw [List.filter_eq_nil_iff]
  intro r hr
  obtain ⟨i, -, rfl⟩ := List.mem_map.mp hr
  simpa using h

/-- Adding the same files in another order gives a rearranged draft. -/
theorem addFiles_rearranged (hpaths : (files.map AstFile.modulePath).Nodup) (hids : (files.map AstFile.moduleId).Nodup)
    (hcolon : ∀ f ∈ files, ':' ∉ f.path.toList) (hperm : files.Perm files') :
    Rearranged (addFiles {} files) (addFiles {} files') := by
  have hpaths' : (files'.map AstFile.modulePath).Nodup := (hperm.map _).nodup_iff.mp hpaths
  have hids' : (files'.map AstFile.moduleId).Nodup := (hperm.map _).nodup_iff.mp hids
  have hd := addFiles_assembled hpaths hids hcolon
  have hd' := addFiles_assembled hpaths' hids' fun f hf => hcolon f (hperm.mem_iff.mpr hf)
  have hgathered := addFiles_gathered hpaths
  have hgathered' := addFiles_gathered hpaths'
  refine ⟨?_, ?_, ?_, ?_, ?_, ?_⟩
  · refine Keyed.ext (addFiles_typed files).nodes (addFiles_typed files').nodes fun id => Option.ext fun x => ?_
    rw [hd.nodes, hd'.nodes]
    simp only [hperm.mem_iff]
  · refine Keyed.ext hgathered.sorted hgathered'.sorted fun p => Option.ext fun id => ?_
    rw [hgathered.modules, hgathered'.modules]
    simp only [hperm.mem_iff]
  · intro id
    rw [hgathered.imports, hgathered'.imports, List.filter_flatMap, List.filter_flatMap]
    refine flatMap_eq_of_perm hperm ((List.pairwise_map.mp hids).imp ?_)
    intro f h hne
    by_cases hf : f.moduleId = id
    · exact .inr (filter_importReferences fun hh => hne (hf.trans hh.symm))
    · exact .inl (filter_importReferences hf)
  · rw [hd.compositions, hd'.compositions]
    exact hperm.flatMap_right _
  · rw [hd.heritage, hd'.heritage]
    exact hperm.flatMap_right _
  · rw [hd.calls, hd'.calls]
    exact hperm.flatMap_right _

namespace Rearranged

theorem mem_imports_iff (h : Rearranged d d') {r : ImportReference} : r ∈ d.imports ↔ r ∈ d'.imports := by
  have hmem : ∀ {rs : List ImportReference}, r ∈ rs ↔ r ∈ rs.filter fun x => x.moduleId = r.moduleId := by simp
  rw [hmem, h.imports, ← hmem]

theorem importedModule? (h : Rearranged d d') : d.importedModule? = d'.importedModule? := by
  funext r
  simp only [GraphDraft.importedModule?, h.modules]

theorem importEdges (h : Rearranged d d') : d.importEdges = d'.importEdges := by
  have hends : d.endsOf = d'.endsOf := by
    funext r
    simp only [endsOf, importTarget, h.importedModule?]
  have hmerged : d.mergedImports = d'.mergedImports := by
    refine Keyed.ext d.sorted_mergedImports d'.sorted_mergedImports fun e => ?_
    rw [get?_mergedImports, get?_mergedImports, hends]
    congr 1
    -- what is merged into an edge are imports of its source, and these stand in the same order
    have hsplit : ∀ rs : List ImportReference, (rs.filter fun r => d'.endsOf r = e) =
        (rs.filter fun r => r.moduleId = e.source).filter fun r => d'.endsOf r = e := by
      intro rs
      rw [List.filter_filter]
      refine List.filter_congr fun r _ => ?_
      by_cases hr : d'.endsOf r = e
      · subst hr
        simp [endsOf]
      · simp [hr]
    rw [hsplit d.imports, h.imports, ← hsplit]
  rw [importEdges_eq, importEdges_eq, hmerged]

theorem mem_outsideSpecifiers_iff (h : Rearranged d d') {s : String} :
    s ∈ d.outsideSpecifiers ↔ s ∈ d'.outsideSpecifiers := by
  simp only [outsideSpecifiers, List.mem_map, List.mem_filter, h.mem_imports_iff, h.importedModule?]

/-- Things outside are found by their ids, whichever import came first. -/
theorem nodes_addExternals (h : Rearranged d d') (hd : d.Typed) (hd' : d'.Typed) :
    d.addExternals.nodes = d'.addExternals.nodes := by
  refine Keyed.ext (sorted_addExternals hd) (sorted_addExternals hd') fun id => ?_
  rw [get?_addExternals hd, get?_addExternals hd', h.nodes]
  congr 2
  refine Option.ext fun s => ?_
  have hkey : ∀ specifiers : List String, ∀ x ∈ specifiers, ∀ y ∈ specifiers,
      Entity.externalId x = Entity.externalId y → x = y := fun _ _ _ _ _ heq => externalId_injective heq
  rw [Keyed.find?_eq_some_iff (hkey _), Keyed.find?_eq_some_iff (hkey _), h.mem_outsideSpecifiers_iff]

/-- Rearranged drafts give the same nodes, the same edges of imports and the same other edges in some order. -/
theorem build (h : Rearranged d d') (hd : d.Typed) (hd' : d'.Typed) :
    d.build.nodes = d'.build.nodes ∧ d.build.edges.Perm d'.build.edges := by
  have hnodes := h.nodes_addExternals hd hd'
  have hresolve : d.addExternals.resolveName? = d'.addExternals.resolveName? := by
    funext kinds moduleId name
    simp only [resolveName?, hnodes]
  have hheritage : d.addExternals.heritageEdges.Perm d'.addExternals.heritageEdges := by
    simp only [heritageEdges, hresolve]
    exact h.heritage.filterMap _
  have hcalls : d.addExternals.callEdges = d'.addExternals.callEdges := by
    simp only [callEdges, hresolve]
    exact congrArg _ (Keyed.counts_perm (h.calls.filterMap _))
  refine ⟨hnodes, ?_⟩
  change (d.compositions ++ d.importEdges ++ d.addExternals.heritageEdges ++ d.addExternals.callEdges).Perm
    (d'.compositions ++ d'.importEdges ++ d'.addExternals.heritageEdges ++ d'.addExternals.callEdges)
  rw [h.importEdges, hcalls]
  exact ((h.compositions.append_right _).append hheritage).append_right _

end Rearranged
end GraphDraft

namespace CodeGraph

variable {g g' : CodeGraph}

theorem cycles_congr (hnodes : g.nodes = g'.nodes)
    (himports : (g.edges.filter fun r => r.kind = .imports) = g'.edges.filter fun r => r.kind = .imports) :
    g.cycles = g'.cycles := by
  simp only [cycles, importAdjacency, modules, entities, hnodes, himports]

theorem entryPoints_congr (hnodes : g.nodes = g'.nodes) (hedges : g.edges.Perm g'.edges) :
    g.entryPoints = g'.entryPoints := by
  have hincoming : ∀ id, (g.incoming id).isEmpty = (g'.incoming id).isEmpty := by
    intro id
    rw [incoming_eq_filter, incoming_eq_filter]
    exact (hedges.filter _).isEmpty_eq
  simp only [entryPoints_eq, modules, entities, hnodes, hincoming]

/-- The graph of files with paths and ids of their own, and without colons in their paths, does not
depend on their order: same nodes, same cycles, same entry points, same edges. -/
theorem graph_independent_of_file_order {files files' : List AstFile} (hpaths : (files.map AstFile.modulePath).Nodup)
    (hids : (files.map AstFile.moduleId).Nodup) (hcolon : ∀ f ∈ files, ':' ∉ f.path.toList)
    (hperm : files.Perm files') :
    (ofFiles files).nodes = (ofFiles files').nodes ∧ (ofFiles files).edges.Perm (ofFiles files').edges ∧
      (ofFiles files).cycles = (ofFiles files').cycles ∧ (ofFiles files).entryPoints = (ofFiles files').entryPoints := by
  have hrearranged := GraphDraft.addFiles_rearranged hpaths hids hcolon hperm
  have htyped := GraphDraft.addFiles_typed files
  have htyped' := GraphDraft.addFiles_typed files'
  obtain ⟨hnodes, hedges⟩ := hrearranged.build htyped htyped'
  refine ⟨hnodes, hedges, cycles_congr hnodes ?_, entryPoints_congr hnodes hedges⟩
  exact (htyped.filter_imports.trans hrearranged.importEdges).trans htyped'.filter_imports.symm

/-- A file with declarations and imports. -/
def drawnFile (path : String) (sources : List String) (declarations : List AstNode) : AstFile :=
  let file := AstFile.ofImports path .typescript sources
  { file with root := { file.root with children := declarations } }

/-- Two files that import each other: in one a class and two functions of the same name, in the other
a class that extends the first one and a function that calls another. -/
def drawnFiles : List AstFile :=
  let place (path : String) (line : Nat) : Location := ⟨path, line, 1, line, 9⟩
  [drawnFile "src/shape.ts" ["./circle", "lodash"]
    [{ kind := .classType, name := some "Shape", location := place "src/shape.ts" 1 },
      { kind := .function, name := some "draw", location := place "src/shape.ts" 2 },
      { kind := .function, name := some "draw", location := place "src/shape.ts" 3 }],
    drawnFile "src/circle.ts" ["./shape", "lodash"]
      [{ kind := .classType, name := some "Circle", location := place "src/circle.ts" 1,
         metadata := [("extends", .texts ["Shape"])] },
        { kind := .function, name := some "fill", location := place "src/circle.ts" 2,
          children := [{ kind := .call, location := place "src/circle.ts" 2, metadata := [("callee", .text "fill")] }] }]]

theorem drawnFiles_in_any_order :
    (drawnFiles.map AstFile.modulePath).Nodup ∧ (drawnFiles.map AstFile.moduleId).Nodup ∧
      (∀ f ∈ drawnFiles, ':' ∉ f.path.toList) ∧ drawnFiles.Perm drawnFiles.reverse ∧
      (ofFiles drawnFiles).nodes = (ofFiles drawnFiles.reverse).nodes ∧
      (ofFiles drawnFiles).edges.Perm (ofFiles drawnFiles.reverse).edges ∧
      (ofFiles drawnFiles).edges ≠ (ofFiles drawnFiles.reverse).edges ∧
      (ofFiles drawnFiles).cycles = (ofFiles drawnFiles.reverse).cycles ∧
      (ofFiles drawnFiles).entryPoints = (ofFiles drawnFiles.reverse).entryPoints := by
  have hpaths : (drawnFiles.map AstFile.modulePath).Nodup := by decide +kernel
  have hids : (drawnFiles.map AstFile.moduleId).Nodup := by decide +kernel
  have hcolon : ∀ f ∈ drawnFiles, ':' ∉ f.path.toList := by decide +kernel
  have hperm : drawnFiles.Perm drawnFiles.reverse := (List.reverse_perm _).symm
  obtain ⟨hnodes, hedges, hrest⟩ := graph_independent_of_file_order hpaths hids hcolon hperm
  exact ⟨hpaths, hids, hcolon, hperm, hnodes, hedges, by decide +kernel, hrest⟩

end CodeGraph
end CodeAudit
