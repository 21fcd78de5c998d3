import CodeAudit.Proofs.Graph.Draft

/-! What a graph finds by its index: the edges from an id and to it, and, where nodes know the ids that
they stand under, the nodes of a kind and of a file. -/
namespace CodeAudit

theorem EntityKind.name_injective : Function.Injective EntityKind.name := by
  intro a b h
  cases a <;> cases b <;> first | rfl | exact absurd h (by decide)

namespace CodeGraph

variable {g : CodeGraph}

/-- Edges that are listed by their places, under what one can tell from the edge. -/
theorem edgesAt_groups (g : CodeGraph) (key : Relation → String) (k : String) :
    g.edgesAt ((Keyed.groups (g.edges.zipIdx.map fun x => (key x.1, x.2))).get? k) =
      g.edges.filter fun r => key r = k := by
  have hplace : ∀ x ∈ g.edges.zipIdx, g.edges[x.2]? = some x.1 := by
    rintro ⟨r, place⟩ hx
    exact List.mem_zipIdx_iff_getElem?.mp hx
  have hfst : g.edges.zipIdx.map Prod.fst = g.edges := List.zipIdx_map_fst 0 g.edges
  calc g.edgesAt ((Keyed.groups (g.edges.zipIdx.map fun x => (key x.1, x.2))).get? k)
      = (g.edges.zipIdx.filter fun x => key x.1 = k).filterMap fun x => g.edges[x.2]? := by
        rw [edgesAt, Keyed.getD_groups, List.filter_map, List.map_map, List.filterMap_map]
        rfl
    _ = (g.edges.zipIdx.filter fun x => key x.1 = k).map Prod.fst := by
        rw [← List.filterMap_eq_map]
        refine List.filterMap_congr ?_
        exact fun x hx => hplace x (List.mem_filter.mp hx).1
    _ = g.edges.filter fun r => key r = k := by
        nth_rewrite 2 [← hfst]
        rw [List.filter_map]
        rfl

theorem outgoing_eq_filter (g : CodeGraph) (id : String) : g.outgoing id = g.edges.filter fun r => r.source = id := by
  rw [outgoing, g.index_eq]
  exact g.edgesAt_groups Relation.source id

theorem incoming_eq_filter (g : CodeGraph) (id : String) : g.incoming id = g.edges.filter fun r => r.target = id := by
  rw [incoming, g.index_eq]
  exact g.edgesAt_groups Relation.target id

/-- Edges lead to what the index lists edges for, and to nothing else. -/
theorem all_isEmpty_incoming (g : CodeGraph) (id : String) :
    (g.index.incoming.get? id).all (·.isEmpty) = (g.incoming id).isEmpty := by
  cases hget : g.index.incoming.get? id with
  | none =>
    rw [incoming, hget]
    rfl
  | some places =>
    rw [g.index_eq] at hget
    obtain ⟨hne, hplaces⟩ := Keyed.of_mem_groups (Keyed.mem_of_get? hget)
    obtain ⟨place, hplace⟩ := List.exists_mem_of_ne_nil places hne
    obtain ⟨⟨r, _⟩, hr, heq⟩ := List.mem_map.mp (hplaces place hplace)
    have hmem : r ∈ g.incoming id := by
      rw [incoming_eq_filter, List.mem_filter, decide_eq_true_iff]
      exact ⟨List.fst_mem_of_mem_zipIdx hr, congrArg Prod.fst heq⟩
    rw [Option.all_some, List.isEmpty_eq_false_iff.mpr hne,
      List.isEmpty_eq_false_iff.mpr (List.ne_nil_of_mem hmem)]

theorem entryPoints_eq (g : CodeGraph) :
    g.entryPoints = (g.modules.filter fun e => e.isExported && (g.incoming e.id).isEmpty).map (·.id) := by
  simp only [entryPoints, all_isEmpty_incoming]

/-- Nodes in the order of their ids, which they know. -/
structure Ordered (g : CodeGraph) : Prop where
  sorted : Keyed.Sorted g.nodes
  ids : ∀ id e, g.node? id = some e → e.id = id

theorem Ordered.node?_of_mem (h : g.Ordered) {e : Entity} (he : e ∈ g.entities) : g.node? e.id = some e := by
  obtain ⟨⟨id, e⟩, hmem, rfl⟩ := List.mem_map.mp he
  have hget : g.node? id = some e := Keyed.get?_of_mem h.sorted hmem
  rw [h.ids id e hget]
  exact hget

/-- Nodes that are listed by their ids, under what one can tell from the node. -/
theorem Ordered.nodesAt_groups (h : g.Ordered) (key : Entity → String) {es : List Entity} (hes : es ⊆ g.entities)
    (k : String) :
    g.nodesAt ((Keyed.groups (es.map fun e => (key e, e.id))).get? k) = es.filter fun e => key e = k := by
  calc g.nodesAt ((Keyed.groups (es.map fun e => (key e, e.id))).get? k)
      = (es.filter fun e => key e = k).filterMap fun e => g.node? e.id := by
        rw [nodesAt, Keyed.getD_groups, List.filter_map, List.map_map, List.filterMap_map]
        rfl
    _ = (es.filter fun e => key e = k).filterMap some := by
        refine List.filterMap_congr ?_
        exact fun e he => h.node?_of_mem (hes (List.mem_filter.mp he).1)
    _ = es.filter fun e => key e = k := List.filterMap_some

theorem Ordered.ofKind_eq_filter (h : g.Ordered) (kind : EntityKind) :
    g.ofKind kind = g.entities.filter fun e => e.kind = kind := by
  rw [ofKind, g.index_eq]
  refine (h.nodesAt_groups (fun e => e.kind.name) (List.Subset.refl _) kind.name).trans ?_
  simp only [EntityKind.name_injective.eq_iff]

theorem Ordered.inFile_eq_filter (h : g.Ordered) (file : String) :
    g.inFile file = g.entities.filter fun e => e.file ≠ "" ∧ e.file = file := by
  rw [inFile, g.index_eq]
  refine (h.nodesAt_groups Entity.file (List.filter_subset_self _) file).trans ?_
  rw [List.filter_filter]
  refine List.filter_congr fun e _ => ?_
  rw [Bool.decide_and, Bool.and_comm]

/-- In the graph of files, nodes stand under their ids in order. -/
theorem ordered_ofFiles (files : List AstFile) : (ofFiles files).Ordered where
  sorted := GraphDraft.sorted_addExternals (GraphDraft.addFiles_typed files)
  ids _ _ he := GraphDraft.id_of_get?_addExternals (GraphDraft.addFiles_typed files) he

end CodeGraph
end CodeAudit
