import CodeAudit.Proofs.Graph.Imports
import CodeAudit.Proofs.Graph.Index

/-! No edge of a graph leads from nowhere or to nowhere. A draft never loses an id, even where a node
takes the place of another one; so whatever it has written down under the id of a node, be it a
composition or a reference to be resolved at the end, goes on to have that node. -/
namespace CodeAudit

namespace GraphDraft

variable {d e : GraphDraft} {s : GraphScope} {f : AstFile} {id : String}

/-- There is a node under the id. -/
def Has (d : GraphDraft) (id : String) : Prop := (d.nodes.get? id).isSome = true

/-- Every id that has a node keeps one. -/
def Grows (d e : GraphDraft) : Prop := ∀ id, d.Has id → e.Has id

theorem has_insert (h : Keyed.Sorted d.nodes) (x : Entity) (hnodes : e.nodes = d.nodes.insert x.id x) :
    d.Grows e ∧ e.Has x.id := by
  refine ⟨fun id hid => ?_, ?_⟩
  · rw [Has, hnodes, Keyed.get?_insert h]
    split
    · rfl
    · exact hid
  · rw [Has, hnodes, Keyed.get?_insert h, if_pos rfl]
    rfl

/-- A draft in which everything that has been written down under an id has a node there. -/
structure Linked (d : GraphDraft) : Prop where
  typed : d.Typed
  compositions : ∀ r ∈ d.compositions, d.Has r.source ∧ d.Has r.target
  sorted : Keyed.Sorted d.modules
  modules : ∀ path id, d.modules.get? path = some id → d.Has id
  imports : ∀ r ∈ d.imports, d.Has r.moduleId
  heritage : ∀ h ∈ d.heritage, d.Has h.source
  calls : ∀ c ∈ d.calls, d.Has c.source

/-- The ids that a scope hands on to what is found in it have nodes. -/
structure Anchors (d : GraphDraft) (s : GraphScope) : Prop where
  container : d.Has s.container
  function : ∀ id ∈ s.function, d.Has id

theorem Anchors.grow (h : d.Anchors s) (hgrows : d.Grows e) : e.Anchors s :=
  ⟨hgrows _ h.container, fun id hid => hgrows id (h.function id hid)⟩

theorem Linked.addCall (h : d.Linked) (hs : d.Anchors s) (callee : String) : (d.addCall s callee).Linked := by
  refine { h with typed := { h.typed with }, calls := ?_ }
  intro c hc
  rcases List.mem_append.mp hc with hc | hc
  · exact h.calls c hc
  · rw [List.mem_singleton.mp hc]
    cases hfunction : s.function with
    | none => exact hs.container
    | some id => exact hs.function id hfunction

theorem source_of_mem_heritageOf {kind : EntityKind} {n : AstNode} {r : HeritageReference}
    (hr : r ∈ heritageOf s id kind n) : r.source = id := by
  unfold heritageOf at hr
  split at hr
  · rcases List.mem_append.mp hr with hr | hr
    · obtain ⟨_, -, rfl⟩ := List.mem_map.mp hr
      rfl
    · obtain ⟨_, -, rfl⟩ := List.mem_map.mp hr
      rfl
  · cases hr

theorem Anchors.scopeInside (h : d.Anchors s) (hid : d.Has id) (name : String) (kind : EntityKind) :
    d.Anchors (scopeInside s id name kind) := by
  unfold GraphDraft.scopeInside
  split
  · exact ⟨hid, h.function⟩
  · split
    · refine ⟨h.container, ?_⟩
      rintro _ ⟨⟩
      exact hid
    · exact h

/-- A declaration has a node under its id, and so has everything that refers to it. -/
theorem Linked.declare (h : d.Linked) (hs : d.Anchors s) (kind : EntityKind) (name : String) (n : AstNode) :
    (d.declare s kind name n).2.Linked ∧ (d.declare s kind name n).2.Anchors (d.declare s kind name n).1 ∧
      d.Grows (d.declare s kind name n).2 := by
  let e := (d.declare s kind name n).2
  let id := (d.counts.allocate (s.baseId name)).1
  obtain ⟨hgrows, hid⟩ : d.Grows e ∧ e.Has id :=
    has_insert h.typed.nodes (.ofNode id kind (s.moduleName ++ "::" ++ s.qualifier ++ name) s.language n) rfl
  refine ⟨⟨h.typed.declare s kind name n, ?_, h.sorted, ?_, ?_, ?_, ?_⟩,
    (hs.grow hgrows).scopeInside hid name kind, hgrows⟩
  · intro r hr
    rcases List.mem_append.mp hr with hr | hr
    · obtain ⟨hsource, htarget⟩ := h.compositions r hr
      exact ⟨hgrows _ hsource, hgrows _ htarget⟩
    · rw [List.mem_singleton.mp hr]
      exact ⟨hgrows _ hs.container, hid⟩
  · exact fun path k hk => hgrows k (h.modules path k hk)
  · exact fun r hr => hgrows _ (h.imports r hr)
  · intro r hr
    rcases List.mem_append.mp hr with hr | hr
    · exact hgrows _ (h.heritage r hr)
    · rw [source_of_mem_heritageOf hr]
      exact hid
  · exact fun c hc => hgrows _ (h.calls c hc)

theorem Linked.enter (h : d.Linked) (hs : d.Anchors s) (n : AstNode) :
    (d.enter s n).2.Linked ∧ (d.enter s n).2.Anchors (d.enter s n).1 ∧ d.Grows (d.enter s n).2 := by
  obtain ⟨callee, henter⟩ | ⟨kind, name, -, henter⟩ | henter := enter_cases s n
  · rw [henter]
    exact ⟨h.addCall hs callee, ⟨hs.container, hs.function⟩, fun _ hid => hid⟩
  · rw [henter]
    exact h.declare hs kind name n
  · rw [henter]
    exact ⟨h, hs, fun _ hid => hid⟩

mutual

/-- Inside a node, the scope is one whose ids have nodes by then. -/
theorem Linked.walk {s : GraphScope} {d : GraphDraft} (h : d.Linked) (hs : d.Anchors s) (n : AstNode) :
    (walk s d n).Linked ∧ d.Grows (walk s d n) := by
  match n with
  | ⟨id, kind, name, location, children, parent, metadata⟩ =>
    simp only [GraphDraft.walk]
    obtain ⟨hlinked, hanchors, hgrows⟩ := h.enter hs ⟨id, kind, name, location, children, parent, metadata⟩
    obtain ⟨hall, hmore⟩ := hlinked.walkAll hanchors children
    exact ⟨hall, fun k hk => hmore k (hgrows k hk)⟩

theorem Linked.walkAll {s : GraphScope} {d : GraphDraft} (h : d.Linked) (hs : d.Anchors s) (ns : List AstNode) :
    (walkAll s d ns).Linked ∧ d.Grows (walkAll s d ns) := by
  match ns with
  | [] => exact ⟨h, fun _ hid => hid⟩
  | n :: rest =>
    simp only [GraphDraft.walkAll]
    obtain ⟨hfirst, hgrows⟩ := h.walk hs n
    obtain ⟨hall, hmore⟩ := hfirst.walkAll (hs.grow hgrows) rest
    exact ⟨hall, fun k hk => hmore k (hgrows k hk)⟩

end

theorem Linked.addModule (h : d.Linked) (f : AstFile) :
    (d.addModule f).Linked ∧ (d.addModule f).Anchors f.moduleScope := by
  obtain ⟨hgrows, hid⟩ : d.Grows (d.addModule f) ∧ (d.addModule f).Has f.moduleId :=
    has_insert h.typed.nodes f.moduleEntity rfl
  refine ⟨⟨h.typed.addModule f, ?_, Keyed.sorted_insert h.sorted _ _, ?_, ?_, ?_, ?_⟩, hid, by rintro _ ⟨⟩⟩
  · exact fun r hr => ⟨hgrows _ (h.compositions r hr).1, hgrows _ (h.compositions r hr).2⟩
  · intro path id hpath
    rw [GraphDraft.addModule, Keyed.get?_insert h.sorted] at hpath
    split at hpath
    · cases hpath
      exact hid
    · exact hgrows id (h.modules path id hpath)
  · intro r hr
    rcases List.mem_append.mp hr with hr | hr
    · exact hgrows _ (h.imports r hr)
    · obtain ⟨i, -, rfl⟩ := List.mem_map.mp hr
      exact hid
  · exact fun r hr => hgrows _ (h.heritage r hr)
  · exact fun c hc => hgrows _ (h.calls c hc)

theorem Linked.addFile (h : d.Linked) (f : AstFile) : (d.addFile f).Linked := by
  rw [addFile_eq]
  split
  · exact h
  · obtain ⟨hmodule, hscope⟩ := h.addModule f
    exact (hmodule.walkAll hscope f.root.children).1

theorem addFiles_linked (files : List AstFile) : (addFiles {} files).Linked := by
  induction files using List.reverseRecOn with
  | nil =>
    refine ⟨addFiles_typed [], ?_, Keyed.sorted_nil, ?_, ?_, ?_, ?_⟩ <;> simp [addFiles]
  | append_singleton files f ih =>
    rw [addFiles_concat]
    exact ih.addFile f

/-- What lies outside is added without anything being lost. -/
theorem Linked.addExternals (h : d.Linked) : d.addExternals.Linked := by
  have hgrows : d.Grows d.addExternals := by
    intro id hid
    rw [Has, get?_addExternals h.typed, Option.isSome_or, hid, Bool.true_or]
  refine ⟨⟨sorted_addExternals h.typed, fun id e he => id_of_get?_addExternals h.typed he, h.typed.compositions,
    h.typed.heritage⟩, ?_, h.sorted, ?_, ?_, ?_, ?_⟩
  · exact fun r hr => ⟨hgrows _ (h.compositions r hr).1, hgrows _ (h.compositions r hr).2⟩
  · exact fun path id hpath => hgrows id (h.modules path id hpath)
  · exact fun r hr => hgrows _ (h.imports r hr)
  · exact fun r hr => hgrows _ (h.heritage r hr)
  · exact fun c hc => hgrows _ (h.calls c hc)

/-- An import leads to a module or to something outside, and both have nodes. -/
theorem Linked.has_importTarget (h : d.Linked) {r : ImportReference} (hr : r ∈ d.imports) :
    d.addExternals.Has (d.importTarget r) := by
  rw [Has, get?_addExternals h.typed, Option.isSome_or, importTarget]
  cases hmodule : d.importedModule? r with
  | some id =>
    obtain ⟨path, -, hpath⟩ := Option.bind_eq_some_iff.mp hmodule
    rw [Option.getD_some, (h.modules path id hpath : _ = true), Bool.true_or]
  | none =>
    have houtside : r.statement.source ∈ d.outsideSpecifiers :=
      List.mem_map.mpr ⟨r, List.mem_filter.mpr ⟨hr, by rw [hmodule]; rfl⟩, rfl⟩
    rw [Option.getD_none, Option.isSome_map, Bool.or_eq_true]
    exact .inr (List.find?_isSome.mpr ⟨_, houtside, by simp⟩)

/-- A name is resolved to the id of a node. -/
theorem Typed.has_of_resolveName? (h : d.Typed) {kinds : List EntityKind} {moduleId name : String}
    (hid : d.resolveName? kinds moduleId name = some id) : d.Has id := by
  have hnamed : ∀ x ∈ d.nodes.values.filter fun e => kinds.contains e.kind && e.name == name, d.Has x.id := by
    intro x hx
    obtain ⟨⟨k, x⟩, hmem, rfl⟩ := List.mem_map.mp (List.mem_filter.mp hx).1
    have hget := Keyed.get?_of_mem h.nodes hmem
    rw [h.ids k x hget, Has, hget]
    rfl
  unfold resolveName? at hid
  simp only at hid
  split at hid
  case h_1 x hfind =>
    cases hid
    exact hnamed x (List.mem_of_find?_eq_some hfind)
  case h_2 =>
    split at hid
    case h_1 x hone =>
      cases hid
      exact hnamed x (by rw [hone]; exact List.mem_singleton_self x)
    case h_2 => cases hid

/-- Both ends of every edge have nodes. -/
theorem Linked.build (h : d.Linked) {r : Relation} (hr : r ∈ d.build.edges) :
    (d.build.node? r.source).isSome = true ∧ (d.build.node? r.target).isSome = true := by
  have hlast := h.addExternals
  change r ∈ d.compositions ++ d.importEdges ++ d.addExternals.heritageEdges ++ d.addExternals.callEdges at hr
  change d.addExternals.Has r.source ∧ d.addExternals.Has r.target
  simp only [List.mem_append] at hr
  rcases hr with ((hr | hr) | hr) | hr
  · exact hlast.compositions r hr
  · obtain ⟨i, hi, hsource, htarget⟩ := exists_importEdge_iff.mp ⟨r, hr, rfl, rfl⟩
    rw [← hsource, ← htarget]
    exact ⟨hlast.imports i hi, h.has_importTarget hi⟩
  · obtain ⟨x, hx, hr⟩ := List.mem_filterMap.mp hr
    split at hr
    case h_1 target htarget =>
      split at hr
      · cases hr
      · cases hr
        exact ⟨hlast.heritage x hx, hlast.typed.has_of_resolveName? htarget⟩
    case h_2 => cases hr
  · obtain ⟨⟨ends, count⟩, hmem, rfl⟩ := List.mem_map.mp hr
    obtain ⟨c, hc, hends⟩ := List.mem_filterMap.mp (Keyed.mem_of_mem_counts hmem)
    obtain ⟨target, htarget, rfl⟩ := Option.map_eq_some_iff.mp hends
    exact ⟨hlast.calls c hc, hlast.typed.has_of_resolveName? htarget⟩

end GraphDraft

namespace CodeGraph

variable {g : CodeGraph}

theorem Ordered.pairwise_entities (h : g.Ordered) : g.entities.Pairwise fun a b => a.id < b.id := by
  rw [entities, Keyed.values, List.pairwise_map]
  refine h.sorted.imp_of_mem ?_
  intro a b ha hb hlt
  rw [h.ids a.1 a.2 (Keyed.get?_of_mem h.sorted ha), h.ids b.1 b.2 (Keyed.get?_of_mem h.sorted hb)]
  exact hlt

/-- What every graph of files can be relied on for: edges stand between nodes, nodes know their ids and
come in their order, lookups give all that there is and nothing else, cycles run along imports, and
entry points are the exported modules that nothing points at. -/
structure WellFormed (g : CodeGraph) : Prop where
  ends : ∀ r ∈ g.edges, (g.node? r.source).isSome = true ∧ (g.node? r.target).isSome = true
  ids : ∀ id e, g.node? id = some e → e.id = id
  entities : ∀ e, e ∈ g.entities ↔ g.node? e.id = some e
  order : g.entities.Pairwise fun a b => a.id < b.id
  outgoing : ∀ id, g.outgoing id = g.edges.filter fun r => r.source = id
  incoming : ∀ id, g.incoming id = g.edges.filter fun r => r.target = id
  ofKind : ∀ kind, g.ofKind kind = g.entities.filter fun e => e.kind = kind
  inFile : ∀ file, g.inFile file = g.entities.filter fun e => e.file ≠ "" ∧ e.file = file
  cycles : ∀ c ∈ g.cycles, ∀ id ∈ c,
    (g.node? id).isSome = true ∧ ∃ r ∈ g.outgoing id, r.kind = .imports
  entryPoints : g.entryPoints = (g.entities.filter fun e =>
    e.kind = .moduleFile ∧ e.isExported = true ∧ g.incoming e.id = []).map (·.id)

/-- Whatever the files are, also if their paths repeat and ids of nodes collide, their graph is well
formed. -/
theorem ofFiles_wellFormed (files : List AstFile) : (ofFiles files).WellFormed := by
  have hordered := ordered_ofFiles files
  have hends : ∀ r ∈ (ofFiles files).edges,
      ((ofFiles files).node? r.source).isSome = true ∧ ((ofFiles files).node? r.target).isSome = true :=
    fun r hr => (GraphDraft.addFiles_linked files).build hr
  refine ⟨hends, hordered.ids, ?_, hordered.pairwise_entities, outgoing_eq_filter _, incoming_eq_filter _,
    hordered.ofKind_eq_filter, hordered.inFile_eq_filter, ?_, ?_⟩
  · intro e
    refine ⟨hordered.node?_of_mem, fun he => ?_⟩
    exact List.mem_map.mpr ⟨(e.id, e), Keyed.mem_of_get? he, rfl⟩
  · intro c hc id hid
    obtain ⟨t, hedge⟩ := (Adjacency.isCycle_of_mem_cycles hc).exists_edge hid
    obtain ⟨r, hr, hkind, rfl, -⟩ := (edge_importAdjacency_iff _).mp hedge
    refine ⟨(hends r hr).1, r, ?_, hkind⟩
    rw [outgoing_eq_filter]
    exact List.mem_filter.mpr ⟨hr, by simp⟩
  · rw [entryPoints_eq, modules, List.filter_filter]
    refine congrArg _ (List.filter_congr fun e _ => ?_)
    rw [Bool.eq_iff_iff]
    simp only [Bool.and_eq_true, decide_eq_true_eq, List.isEmpty_iff]
    exact ⟨fun h => ⟨h.2, h.1⟩, fun h => ⟨h.2, h.1⟩⟩

end CodeGraph
end CodeAudit
