import CodeAudit.Proofs.Graph.Draft
import CodeAudit.Proofs.Outline.Ways

/-! What a file declares. A named node stands in the graph unless there is a named function around it. The walk through
a file carries its scope along, but what it carries is said by the way to a node alone: the container is the innermost
one above, and the names of all of them stand in front of the node's own. So the walk takes in one node after the
other, each in the scope of its place. -/
namespace CodeAudit

/-- What a node declares, if it has a name: the kind of entity and the name. -/
def AstNode.declared? (n : AstNode) : Option (EntityKind × String) :=
  (EntityKind.ofNode? n.kind).bind fun kind => n.name.map (kind, ·)

/-- Named classes, interfaces and enums, to which the declarations in them belong. -/
def AstNode.isContainer (n : AstNode) : Bool := n.declared?.any fun d => d.1.isContainer

/-- Named functions, in which nothing counts as declared. -/
def AstNode.hides (n : AstNode) : Bool := n.declared?.any fun d => d.1 = .function

/-- A node of a file that stands in the graph, with its way. -/
structure Declaration where
  file : AstFile
  way : List Nat
  kind : EntityKind
  name : String
  node : AstNode

namespace AstFile

/-- There is a named function around what lies below a way. The outermost one is in the graph itself, so that all
below is inside a function of the graph. -/
def hiddenBelow (f : AstFile) (up : List Nat) : Bool := (f.root.innermost? AstNode.hides up).isSome

/-- The names of the containers around what lies below a way, each with a dot after it. -/
def qualifierBelow (f : AstFile) : List Nat → String
  | [] => ""
  | i :: up => f.qualifierBelow up ++
      match (f.root.at? (i :: up)).bind AstNode.declared? with
      | some (kind, name) => if kind.isContainer then name ++ "." else ""
      | none => ""

def declarationAt? (f : AstFile) (x : List Nat × AstNode) : Option Declaration :=
  if f.hiddenBelow x.1.tail then none
  else x.2.declared?.map fun (kind, name) => ⟨f, x.1, kind, name, x.2⟩

/-- What a file declares, in the order of its nodes. -/
def declarations (f : AstFile) : List Declaration := f.root.inside.filterMap f.declarationAt?

end AstFile

namespace Declaration

/-- Path and containers of the file in front of the name. -/
def qualifiedName (v : Declaration) : String :=
  v.file.moduleName ++ "::" ++ v.file.qualifierBelow v.way.tail ++ v.name

/-- The id before repetitions are told apart. -/
def base (v : Declaration) : String := v.file.language.name ++ ":" ++ v.qualifiedName

/-- The declarations of the file that come before. -/
def earlier (v : Declaration) : List Declaration := v.file.declarations.takeWhile fun u => u.way ≠ v.way

/-- Of several declarations with one base, the later ones are numbered. -/
def id (v : Declaration) : String := IdCounts.tagged v.base ((v.earlier.map base).count v.base)

def entity (v : Declaration) : Entity := .ofNode v.id v.kind v.qualifiedName v.file.language v.node

end Declaration

/-- The id of what is declared at a way, else of the module. -/
def AstFile.idAt (f : AstFile) (way : List Nat) : String :=
  match f.declarations.find? fun v => v.way = way with
  | some v => v.id
  | none => f.moduleId

/-- The container of what lies below a way: the innermost one above, else the module. -/
def AstFile.containerBelow (f : AstFile) (up : List Nat) : String :=
  match f.root.innermost? AstNode.isContainer up with
  | some (way, _) => f.idAt way
  | none => f.moduleId

/-- The edge to a declaration from its container. -/
def Declaration.composition (v : Declaration) : Relation :=
  ⟨v.file.containerBelow v.way.tail, v.id, .composes, 1, false, none⟩

namespace AstFile

variable {f : AstFile} {v u : Declaration} {up way : List Nat} {i : Nat} {n : AstNode} {x : List Nat × AstNode}

theorem mem_declarations_iff : v ∈ f.declarations ↔
    v.way ≠ [] ∧ f.root.at? v.way = some v.node ∧ f.hiddenBelow v.way.tail = false ∧
      v.node.declared? = some (v.kind, v.name) ∧ v.file = f := by
  simp only [declarations, List.mem_filterMap, declarationAt?]
  constructor
  · rintro ⟨⟨way, n⟩, hx, hv⟩
    obtain ⟨hway, hn⟩ := AstNode.mem_inside_iff.mp hx
    split at hv
    · cases hv
    · obtain ⟨⟨kind, name⟩, hdeclared, rfl⟩ := Option.map_eq_some_iff.mp hv
      exact ⟨hway, hn, Bool.eq_false_of_not_eq_true ‹_›, hdeclared, rfl⟩
  · rintro ⟨hway, hn, hhidden, hdeclared, rfl⟩
    refine ⟨(v.way, v.node), AstNode.mem_inside_iff.mpr ⟨hway, hn⟩, ?_⟩
    simp [hhidden, hdeclared]

theorem file_of_mem_declarations (h : v ∈ f.declarations) : v.file = f := (mem_declarations_iff.mp h).2.2.2.2

theorem way_of_declarationAt? (h : f.declarationAt? x = some v) : v.way = x.1 ∧ v.node = x.2 := by
  unfold declarationAt? at h
  split at h
  · cases h
  · obtain ⟨d, -, rfl⟩ := Option.map_eq_some_iff.mp h
    exact ⟨rfl, rfl⟩

/-- Declarations differ by their ways. -/
theorem nodup_declarations (f : AstFile) : (f.declarations.map Declaration.way).Nodup := by
  have hways : (f.root.inside.map (·.1)).Nodup := AstNode.nodup_waysOf
  refine hways.sublist ?_
  rw [declarations]
  generalize f.root.inside = xs
  induction xs with
  | nil => simp
  | cons x xs ih =>
    rw [List.filterMap_cons]
    split
    · exact ih.cons _
    · rename_i v hv
      rw [List.map_cons, List.map_cons, (way_of_declarationAt? hv).1]
      exact ih.cons_cons _

theorem way_inj (hu : u ∈ f.declarations) (hv : v ∈ f.declarations) (h : u.way = v.way) : u = v :=
  List.inj_on_of_nodup_map f.nodup_declarations hu hv h

theorem idAt_way (hv : v ∈ f.declarations) : f.idAt v.way = v.id := by
  have hfind : (f.declarations.find? fun u => u.way = v.way) = some v :=
    (Keyed.find?_eq_some_iff fun _ hu _ hw heq => way_inj hu hw heq).mpr ⟨hv, rfl⟩
  rw [idAt, hfind]

/-- The scope in which the walk takes in what lies below a way. -/
def scopeBelow (f : AstFile) : List Nat → GraphScope
  | [] => f.moduleScope
  | i :: up =>
    match (f.scopeBelow up).function, (f.root.at? (i :: up)).bind AstNode.declared? with
    | none, some (kind, name) => GraphDraft.scopeInside (f.scopeBelow up) (f.idAt (i :: up)) name kind
    | _, _ => f.scopeBelow up

/-- A named function is declared below a way that nothing hides, or nothing changes. -/
theorem hiddenBelow_cons (f : AstFile) (i : Nat) (up : List Nat) :
    f.hiddenBelow (i :: up) = ((f.root.at? (i :: up)).any AstNode.hides || f.hiddenBelow up) := by
  unfold hiddenBelow
  rw [AstNode.innermost?_cons_eq]
  cases f.root.at? (i :: up) with
  | none => simp
  | some n => by_cases hn : n.hides <;> simp [hn]

/-- Where nothing is hidden, the scope is given by the containers above. -/
theorem scopeBelow_spec (f : AstFile) (up : List Nat) :
    if f.hiddenBelow up then f.moduleScope.Within (f.scopeBelow up) ∧ (f.scopeBelow up).function ≠ none
    else f.scopeBelow up = ⟨f.language, f.moduleId, f.moduleName, f.containerBelow up, f.qualifierBelow up, none⟩ := by
  induction up with
  | nil => rfl
  | cons i up ih =>
    by_cases hhidden : f.hiddenBelow up
    · rw [if_pos hhidden] at ih
      rw [hiddenBelow_cons, hhidden, Bool.or_true, if_pos rfl, scopeBelow]
      split
      · exact absurd ‹_› ih.2
      · exact ih
    · rw [if_neg hhidden] at ih
      rw [hiddenBelow_cons, containerBelow, qualifierBelow, AstNode.innermost?_cons_eq, scopeBelow, ih]
      rw [Bool.not_eq_true] at hhidden
      cases hn : f.root.at? (i :: up) with
      | none => simp [containerBelow, hhidden]
      | some n =>
        cases hdeclared : n.declared? with
        | none => simp [containerBelow, hhidden, hdeclared, AstNode.hides, AstNode.isContainer]
        | some d =>
          obtain ⟨kind, name⟩ := d
          cases kind <;>
            simp [containerBelow, hhidden, hdeclared, AstNode.hides, AstNode.isContainer, GraphDraft.scopeInside,
              EntityKind.isContainer, String.append_assoc]
          exact ⟨rfl, rfl, rfl⟩

end AstFile

namespace GraphDraft

variable {f : AstFile} {d : GraphDraft} {s : GraphScope} {n : AstNode} {kind : EntityKind} {name : String}
  {v : Declaration} {x : List Nat × AstNode} {xs before rest : List (List Nat × AstNode)} {up : List Nat} {i : Nat}

theorem enter_of_declared (hs : s.function = none) (hn : n.declared? = some (kind, name)) (d : GraphDraft) :
    d.enter s n = d.declare s kind name n := by
  obtain ⟨kind', hkind, hname⟩ := Option.bind_eq_some_iff.mp hn
  obtain ⟨name', hname, heq⟩ := Option.map_eq_some_iff.mp hname
  cases heq
  have hcall : n.kind ≠ .call := by
    intro hcall
    rw [hcall] at hkind
    cases hkind
  simp [enter, hcall, hkind, hname, hs]

/-- What is no declaration adds a call at most. -/
theorem enter_of_undeclared (h : s.function ≠ none ∨ n.declared? = none) (d : GraphDraft) :
    ∃ calls, d.enter s n = (s, { d with calls := calls }) := by
  unfold enter
  split
  · split
    · exact ⟨_, rfl⟩
    · exact ⟨d.calls, rfl⟩
  · split
    · rename_i kind name hkind hname hfunction
      rcases h with h | h
      · exact absurd hfunction h
      · simp [AstNode.declared?, hkind, hname] at h
    · exact ⟨d.calls, rfl⟩

/-- Takes in a node in the scope of its place. -/
def take (f : AstFile) (d : GraphDraft) (x : List Nat × AstNode) : GraphDraft :=
  (d.enter (f.scopeBelow x.1.tail) x.2).2

/-- The walk through a file has come as far as some nodes. -/
structure Reached (f : AstFile) (d : GraphDraft) (before rest : List (List Nat × AstNode)) : Prop where
  all : f.root.inside = before ++ rest
  counts : d.counts.Counts (f.moduleId :: (before.filterMap f.declarationAt?).map Declaration.base)

theorem base_eq (v : Declaration) : v.base = v.file.moduleId ++ "::" ++ (v.file.qualifierBelow v.way.tail ++ v.name) := by
  simp only [Declaration.base, Declaration.qualifiedName, AstFile.moduleId, String.append_assoc]

theorem base_ne_moduleId (v : Declaration) : v.base ≠ v.file.moduleId := by
  intro h
  have hlength := congrArg String.length h
  have hcolons : "::".length = 2 := rfl
  rw [base_eq, String.length_append, String.length_append, hcolons] at hlength
  omega

/-- A node is no declaration if it lies in a function or declares nothing. -/
theorem undeclared_of_none (h : f.declarationAt? x = none) :
    (f.scopeBelow x.1.tail).function ≠ none ∨ x.2.declared? = none := by
  have hspec := f.scopeBelow_spec x.1.tail
  unfold AstFile.declarationAt? at h
  split at h
  · rw [if_pos ‹_›] at hspec
    exact .inl hspec.2
  · exact .inr (Option.map_eq_none_iff.mp h)

/-- A declaration is entered in the scope of the containers above it. -/
theorem enter_of_declaration (h : f.declarationAt? x = some v) (d : GraphDraft) :
    d.enter (f.scopeBelow x.1.tail) x.2 = d.declare (f.scopeBelow x.1.tail) v.kind v.name x.2 ∧
      f.scopeBelow x.1.tail = ⟨f.language, f.moduleId, f.moduleName, f.containerBelow x.1.tail,
        f.qualifierBelow x.1.tail, none⟩ := by
  have hspec := f.scopeBelow_spec x.1.tail
  unfold AstFile.declarationAt? at h
  split at h
  · cases h
  · obtain ⟨⟨kind, name⟩, hdeclared, rfl⟩ := Option.map_eq_some_iff.mp h
    rw [if_neg ‹_›] at hspec
    refine ⟨enter_of_declared ?_ hdeclared d, hspec⟩
    rw [hspec]

theorem Reached.declarations_eq (h : Reached f d before (x :: rest)) (hv : f.declarationAt? x = some v) :
    f.declarations = before.filterMap f.declarationAt? ++ v :: rest.filterMap f.declarationAt? := by
  rw [AstFile.declarations, h.all, List.filterMap_append, List.filterMap_cons_some hv]

theorem Reached.mem_declarations (h : Reached f d before (x :: rest)) (hv : f.declarationAt? x = some v) :
    v ∈ f.declarations := by
  simp [h.declarations_eq hv]

theorem Reached.earlier_eq (h : Reached f d before (x :: rest)) (hv : f.declarationAt? x = some v) :
    v.earlier = before.filterMap f.declarationAt? := by
  have hfile := AstFile.file_of_mem_declarations (h.mem_declarations hv)
  have hnodup := f.nodup_declarations
  rw [h.declarations_eq hv, List.map_append, List.map_cons, List.nodup_append] at hnodup
  rw [Declaration.earlier, hfile, h.declarations_eq hv, List.takeWhile_append_of_pos]
  · simp
  · intro u hu
    simpa using hnodup.2.2 u.way (List.mem_map_of_mem hu) v.way List.mem_cons_self

/-- A declaration gets the id of its place. -/
theorem Reached.allocate_eq (h : Reached f d before (x :: rest)) (hv : f.declarationAt? x = some v) :
    (d.counts.allocate v.base).1 = v.id := by
  have hfile := AstFile.file_of_mem_declarations (h.mem_declarations hv)
  have hne : f.moduleId ≠ v.base := by
    rw [← hfile]
    exact (base_ne_moduleId v).symm
  rw [h.counts.allocate_fst_eq, List.count_cons_of_ne hne, Declaration.id, h.earlier_eq hv]

theorem Reached.baseId_eq (h : Reached f d before (x :: rest)) (hv : f.declarationAt? x = some v) :
    (f.scopeBelow x.1.tail).baseId v.name = v.base := by
  rw [(enter_of_declaration hv d).2, GraphScope.baseId, Declaration.base, Declaration.qualifiedName,
    AstFile.file_of_mem_declarations (h.mem_declarations hv), (AstFile.way_of_declarationAt? hv).1]

/-- What a declaration adds to a draft. -/
theorem Reached.take_declaration (h : Reached f d before (x :: rest)) (hv : f.declarationAt? x = some v) :
    ∃ heritage, take f d x = { d with
      counts := (d.counts.allocate v.base).2
      nodes := d.nodes.insert v.id v.entity
      compositions := d.compositions ++ [v.composition]
      heritage := heritage } := by
  have hfile := AstFile.file_of_mem_declarations (h.mem_declarations hv)
  obtain ⟨hway, hnode⟩ := AstFile.way_of_declarationAt? hv
  obtain ⟨henter, hscope⟩ := enter_of_declaration hv d
  rw [take, henter, declare_snd, h.baseId_eq hv, h.allocate_eq hv, hscope]
  simp only [Declaration.entity, Declaration.composition, Declaration.qualifiedName, hfile, hway, hnode]
  exact ⟨_, rfl⟩

theorem take_other (hv : f.declarationAt? x = none) (d : GraphDraft) :
    ∃ calls, take f d x = { d with calls := calls } := by
  obtain ⟨calls, henter⟩ := enter_of_undeclared (undeclared_of_none hv) d
  exact ⟨calls, by rw [take, henter]⟩

theorem Reached.take (h : Reached f d before (x :: rest)) : Reached f (take f d x) (before ++ [x]) rest := by
  refine ⟨by rw [h.all, List.append_assoc, List.singleton_append], ?_⟩
  cases hv : f.declarationAt? x with
  | none =>
    obtain ⟨calls, htake⟩ := take_other hv d
    rw [htake, List.filterMap_append, List.filterMap_cons_none hv, List.filterMap_nil, List.append_nil]
    exact h.counts
  | some v =>
    obtain ⟨heritage, htake⟩ := h.take_declaration hv
    rw [htake, List.filterMap_append, List.filterMap_cons_some hv, List.filterMap_nil, List.map_append, List.map_singleton]
    exact h.counts.allocate v.base

theorem Reached.foldl (h : Reached f d before (xs ++ rest)) : Reached f (xs.foldl (GraphDraft.take f) d) (before ++ xs) rest := by
  induction xs generalizing d before with
  | nil => simpa using h
  | cons x xs ih => simpa using ih h.take

/-- The scope that is handed down is that of the way to the node. -/
theorem Reached.scope_eq (h : Reached f d before ((i :: up, n) :: rest)) :
    (d.enter (f.scopeBelow up) n).1 = f.scopeBelow (i :: up) := by
  have hmem : (i :: up, n) ∈ f.root.inside := by simp [h.all]
  have hn := (AstNode.mem_inside_iff.mp hmem).2
  cases hv : f.declarationAt? (i :: up, n) with
  | none =>
    have hnone := undeclared_of_none hv
    obtain ⟨calls, henter⟩ := enter_of_undeclared hnone d
    dsimp only [List.tail_cons] at henter hnone
    rw [henter, AstFile.scopeBelow, hn]
    dsimp only [Option.bind_some]
    split
    · rename_i hfunction hdeclared
      rcases hnone with hnone | hnone
      · exact absurd hfunction hnone
      · rw [hdeclared] at hnone
        cases hnone
    · rfl
  | some v =>
    obtain ⟨henter, hscope⟩ := enter_of_declaration hv d
    have hmem' := h.mem_declarations hv
    obtain ⟨hway, hnode⟩ := AstFile.way_of_declarationAt? hv
    have hdeclared := (AstFile.mem_declarations_iff.mp hmem').2.2.2.1
    have hid := AstFile.idAt_way hmem'
    rw [hnode] at hdeclared
    rw [hway] at hid
    have hbase := h.baseId_eq hv
    dsimp only [List.tail_cons] at henter hscope hid hdeclared hbase
    rw [henter, declare_fst, hbase, h.allocate_eq hv, ← hid, AstFile.scopeBelow, hn, hscope]
    dsimp only [Option.bind_some]
    rw [hdeclared]

mutual

theorem walk_eq {f : AstFile} {n : AstNode} {d : GraphDraft} {before rest : List (List Nat × AstNode)} {up : List Nat}
    {i : Nat} (h : Reached f d before (n.ways (i :: up) ++ rest)) :
    walk (f.scopeBelow up) d n = (n.ways (i :: up)).foldl (take f) d := by
  match n with
  | ⟨id, kind, name, location, children, parent, metadata⟩ =>
    rw [AstNode.ways] at h ⊢
    rw [walk, List.foldl_cons]
    dsimp only
    rw [h.scope_eq]
    exact walkAll_eq h.take

theorem walkAll_eq {f : AstFile} {ns : List AstNode} {d : GraphDraft} {before rest : List (List Nat × AstNode)}
    {up : List Nat} {i : Nat} (h : Reached f d before (AstNode.waysOf up i ns ++ rest)) :
    walkAll (f.scopeBelow up) d ns = (AstNode.waysOf up i ns).foldl (take f) d := by
  match ns with
  | [] => rfl
  | n :: ns =>
    rw [AstNode.waysOf, List.append_assoc] at h
    rw [walkAll, walk_eq h, walkAll_eq h.foldl, AstNode.waysOf, List.foldl_append]

end

/-- What nodes have added to a draft are the declarations among them. -/
theorem Reached.foldl_take (h : Reached f d before (xs ++ rest)) :
    let e := xs.foldl (GraphDraft.take f) d
    let added := xs.filterMap f.declarationAt?
    e.compositions = d.compositions ++ added.map Declaration.composition ∧
      e.nodes = added.foldl (fun nodes v => nodes.insert v.id v.entity) d.nodes := by
  induction xs generalizing d before with
  | nil => simp
  | cons x xs ih =>
    obtain ⟨hcompositions, hnodes⟩ := ih h.take
    dsimp only at hcompositions hnodes ⊢
    rw [List.foldl_cons, hcompositions, hnodes]
    cases hv : f.declarationAt? x with
    | none =>
      obtain ⟨calls, htake⟩ := take_other hv d
      rw [htake, List.filterMap_cons_none hv]
      exact ⟨rfl, rfl⟩
    | some v =>
      obtain ⟨heritage, htake⟩ := h.take_declaration hv
      rw [htake, List.filterMap_cons_some hv, List.map_cons, List.foldl_cons, List.append_assoc]
      exact ⟨rfl, rfl⟩

theorem addFile_empty (f : AstFile) :
    (addFile {} f).compositions = f.declarations.map Declaration.composition ∧
      (addFile {} f).nodes =
        f.declarations.foldl (fun nodes v => Keyed.insert v.id v.entity nodes) [(f.moduleId, f.moduleEntity)] := by
  have hstart : Reached f (addModule {} f) [] (AstNode.waysOf [] 0 f.root.children ++ []) := by
    refine ⟨by simp [AstNode.inside], fun b => ?_⟩
    by_cases hb : b = f.moduleId
    · simp [addModule, IdCounts.lookup_restart, hb]
    · simp [addModule, IdCounts.lookup_restart, hb]
  have hwalk : addFile {} f = (AstNode.waysOf [] 0 f.root.children).foldl (take f) (addModule {} f) := by
    rw [addFile_of_notMem (d := {}) List.not_mem_nil]
    exact walkAll_eq hstart
  rw [hwalk]
  exact hstart.foldl_take

end GraphDraft

namespace AstFile

variable {f : AstFile} {u v : Declaration}

theorem ids_eq_numberedAfter (f : AstFile) :
    f.declarations.map Declaration.id = IdCounts.numberedAfter [] (f.declarations.map Declaration.base) := by
  have htagged := IdCounts.map_tagged_eq_numberedAfter Declaration.base Declaration.way [] f.declarations
    f.nodup_declarations
  rw [List.map_nil] at htagged
  rw [← htagged]
  apply List.map_congr_left
  intro v hv
  rw [Declaration.id, Declaration.earlier, file_of_mem_declarations hv, List.nil_append]

/-- Names of containers are declared names, so that a qualifier has no mark for numbers if these have none. -/
theorem mark_notMem_qualifierBelow (hnames : ∀ v ∈ f.declarations, '#' ∉ v.name.toList)
    (hup : f.hiddenBelow up = false) : '#' ∉ (f.qualifierBelow up).toList := by
  induction up with
  | nil => simp [qualifierBelow]
  | cons i up ih =>
    rw [hiddenBelow_cons, Bool.or_eq_false_iff] at hup
    rw [qualifierBelow, String.toList_append, List.mem_append, not_or]
    refine ⟨ih hup.2, ?_⟩
    split
    · rename_i kind name hdeclared
      obtain ⟨n, hn, hdeclared⟩ := Option.bind_eq_some_iff.mp hdeclared
      have hname := hnames ⟨f, i :: up, kind, name, n⟩ (mem_declarations_iff.mpr ⟨by simp, hn, hup.2, hdeclared, rfl⟩)
      split
      · simpa using hname
      · simp
    · simp

/-- Declared names without the mark for numbers get ids of their own. -/
theorem nodup_ids (hnames : ∀ v ∈ f.declarations, '#' ∉ v.name.toList) : (f.declarations.map Declaration.id).Nodup := by
  rw [ids_eq_numberedAfter]
  apply IdCounts.nodup_numberedAfter
  intro b hb
  obtain ⟨v, hv, rfl⟩ := List.mem_map.mp hb
  have hfile := file_of_mem_declarations hv
  have hhidden := (mem_declarations_iff.mp hv).2.2.1
  have hqualifier := mark_notMem_qualifierBelow hnames hhidden
  have hbase : v.base.toList = (v.file.moduleId ++ ":").toList ++ ':' ::
      (v.file.qualifierBelow v.way.tail ++ v.name).toList := by
    rw [GraphDraft.base_eq]
    simp
  apply IdCounts.plain_of_toList hbase
  · rw [hfile, String.toList_append, List.mem_append, not_or]
    exact ⟨hqualifier, hnames v hv⟩
  · decide
  · decide

/-- The id of a declaration begins with the one of its module. -/
theorem id_eq_append (v : Declaration) : ∃ rest : String, v.id = v.file.moduleId ++ "::" ++ rest := by
  have htagged : ∃ tail : String, v.id = v.base ++ tail := by
    unfold Declaration.id
    cases (v.earlier.map Declaration.base).count v.base with
    | zero => exact ⟨"", by simp [IdCounts.tagged]⟩
    | succ n => exact ⟨"#" ++ toString (n + 1), String.append_assoc ..⟩
  obtain ⟨tail, htail⟩ := htagged
  refine ⟨v.file.qualifierBelow v.way.tail ++ v.name ++ tail, ?_⟩
  rw [htail, GraphDraft.base_eq]
  simp only [String.append_assoc]

end AstFile
end CodeAudit
