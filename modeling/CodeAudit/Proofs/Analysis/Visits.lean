import CodeAudit.Analysis.Calling
import CodeAudit.Proofs.Numbering
import CodeAudit.Proofs.Outline.Ways

/-! What the search for functions and calls sees. What the walk carries along is said by the way to a node alone: the
function and the type around it are the innermost ones above. So the walk takes in one node after the other, each in
the scope of its place. -/
namespace CodeAudit.Calling

/-- A node below the root of a tree, with its way and the place of the tree among all. -/
structure Visit where
  tree : Nat
  file : AstFile
  way : List Nat
  node : AstNode

def isFunction (n : AstNode) : Bool := n.kind == .function

def isType (n : AstNode) : Bool := [.classType, .interfaceType, .enumType].contains n.kind

/-- The name that a call calls. -/
def calleeOf? (n : AstNode) : Option String := if n.kind = .call then n.callee?.or n.name else none

/-- The way of the function around what lies below a way. -/
def functionAround? (root : AstNode) (up : List Nat) : Option (List Nat) :=
  (root.innermost? isFunction up).map (·.1)

/-- The type around what lies below a way, unless there is a function in between. -/
def typeAround? (root : AstNode) (up : List Nat) : Option Enclosing :=
  match root.innermost? (fun n => isFunction n || isType n) up with
  | some (_, n) => if isFunction n then none else some ⟨n.name.getD anonymousName, n.isExported⟩
  | none => none

namespace Visit

/-- What tells nodes apart. -/
def site (v : Visit) : Nat × List Nat := (v.tree, v.way)

def isFunction (v : Visit) : Bool := Calling.isFunction v.node

def function? (v : Visit) : Option (List Nat) := functionAround? v.file.root v.way.tail

def enclosing? (v : Visit) : Option Enclosing := typeAround? v.file.root v.way.tail

def name (v : Visit) : String := v.node.name.getD anonymousName

def className? (v : Visit) : Option String := (v.enclosing?.map (·.name)).or v.node.className?

/-- The name of a function with the type around it. -/
def qualified (v : Visit) : String :=
  match v.className? with
  | some c => c ++ "." ++ v.name
  | none => v.name

/-- The id of a function before repetitions are told apart. -/
def base (v : Visit) : String := v.file.path ++ "::" ++ v.qualified

/-- What is noted of a function under an id. -/
def record (v : Visit) (id : String) : FunctionRecord :=
  functionRecord ⟨v.file.path, v.enclosing?, none⟩ id v.name v.className? v.node

end Visit

def visitsOf (tree : Nat) (t : AstFile) (ways : List (List Nat × AstNode)) : List Visit :=
  ways.map fun (way, n) => ⟨tree, t, way, n⟩

/-- All nodes of some trees, the first of which has the given place. -/
def visitsFrom (first : Nat) (trees : List AstFile) : List Visit :=
  (trees.zipIdx first).flatMap fun (t, tree) => visitsOf tree t t.root.inside

/-- All nodes of the trees in the order in which they are walked. -/
def visits (trees : List AstFile) : List Visit := visitsFrom 0 trees

/-- The nodes that are functions. -/
def functionsIn (trees : List AstFile) : List Visit := (visits trees).filter Visit.isFunction

/-- The place of a function among all. -/
def number (trees : List AstFile) (site : Nat × List Nat) : Nat := ((functionsIn trees).map Visit.site).idxOf site

/-- The call that a node is. -/
def Visit.call? (trees : List AstFile) (v : Visit) : Option Call :=
  (calleeOf? v.node).map fun callee =>
    ⟨v.file.path, v.function?.map fun way => number trees (v.tree, way), callee, v.node.location.startLine⟩

/-- The scope of what lies below a way. -/
def scopeBelow (trees : List AstFile) (tree : Nat) (t : AstFile) (up : List Nat) : Scope where
  file := t.path
  enclosing := typeAround? t.root up
  function := (functionAround? t.root up).map fun way => number trees (tree, way)

/-- Takes in a node in the scope of its place. -/
def take (trees : List AstFile) (h : Harvest) (v : Visit) : Harvest :=
  (h.enter (scopeBelow trees v.tree v.file v.way.tail) v.node).2

/-- The walk has come as far as some visits. -/
structure Reached (trees : List AstFile) (h : Harvest) (before rest : List Visit) : Prop where
  all : visits trees = before ++ rest
  length : h.functions.length = before.countP Visit.isFunction

variable {trees : List AstFile} {t : AstFile} {tree i : Nat} {h : Harvest} {v : Visit} {before vs rest : List Visit}
  {n : AstNode} {f : FunctionRecord} {id : String}

theorem visitsOf_cons (tree : Nat) (t : AstFile) (way : List Nat) (n : AstNode) (ways : List (List Nat × AstNode)) :
    visitsOf tree t ((way, n) :: ways) = ⟨tree, t, way, n⟩ :: visitsOf tree t ways := rfl

theorem visitsOf_append (tree : Nat) (t : AstFile) (ways ways' : List (List Nat × AstNode)) :
    visitsOf tree t (ways ++ ways') = visitsOf tree t ways ++ visitsOf tree t ways' := List.map_append

theorem visitsFrom_cons (first : Nat) (t : AstFile) (trees : List AstFile) :
    visitsFrom first (t :: trees) = visitsOf first t t.root.inside ++ visitsFrom (first + 1) trees := by
  rw [visitsFrom, List.zipIdx_cons, List.flatMap_cons]
  rfl

/-- Visited are the nodes of the trees, their roots apart. -/
theorem mem_visits_iff : v ∈ visits trees ↔
    trees[v.tree]? = some v.file ∧ v.way ≠ [] ∧ v.file.root.at? v.way = some v.node := by
  unfold visits visitsFrom visitsOf
  constructor
  · intro hv
    obtain ⟨⟨t, tree⟩, ht, hv⟩ := List.mem_flatMap.mp hv
    obtain ⟨⟨way, n⟩, hn, rfl⟩ := List.mem_map.mp hv
    exact ⟨List.mem_zipIdx_iff_getElem?.mp ht, AstNode.mem_inside_iff.mp hn⟩
  · rintro ⟨ht, hn⟩
    refine List.mem_flatMap.mpr ⟨(v.file, v.tree), List.mem_zipIdx_iff_getElem?.mpr ht, ?_⟩
    exact List.mem_map.mpr ⟨(v.way, v.node), AstNode.mem_inside_iff.mpr hn, rfl⟩

theorem tree_of_mem_visitsOf {ways : List (List Nat × AstNode)} {site : Nat × List Nat}
    (h : site ∈ (visitsOf tree t ways).map Visit.site) : site.1 = tree := by
  obtain ⟨v, hv, rfl⟩ := List.mem_map.mp h
  obtain ⟨_, -, rfl⟩ := List.mem_map.mp hv
  rfl

/-- No node is visited twice. -/
theorem nodup_visits (trees : List AstFile) : ((visits trees).map Visit.site).Nodup := by
  rw [visits, visitsFrom, List.map_flatMap, List.nodup_flatMap]
  refine ⟨fun ⟨t, tree⟩ _ => ?_, ?_⟩
  · have hways : (visitsOf tree t t.root.inside).map Visit.site = (t.root.inside.map (·.1)).map (tree, ·) := by
      simp [visitsOf, Visit.site]
    rw [hways]
    exact AstNode.nodup_waysOf.map fun _ _ h => (Prod.mk.inj h).2
  · have hplaces : (trees.zipIdx.map (·.2)).Nodup := by
      rw [List.zipIdx_map_snd]
      exact List.nodup_range'
    refine (List.pairwise_map.mp hplaces).imp ?_
    rintro ⟨t, tree⟩ ⟨t', tree'⟩ hne site hsite hsite'
    exact hne ((tree_of_mem_visitsOf hsite).symm.trans (tree_of_mem_visitsOf hsite'))

theorem nodup_functionsIn (trees : List AstFile) : ((functionsIn trees).map Visit.site).Nodup :=
  (nodup_visits trees).sublist (List.filter_sublist.map Visit.site)

theorem enter_fst (h : Harvest) (s : Scope) (n : AstNode) : (h.enter s n).1 =
    if isFunction n then ⟨s.file, none, some h.functions.length⟩
    else if isType n then { s with enclosing := some ⟨n.name.getD anonymousName, n.isExported⟩ } else s := by
  unfold Harvest.enter isFunction isType
  cases n.kind <;> first | rfl | (cases n.callee?.or n.name <;> rfl)

/-- A node adds itself if it is a function, and nothing else. -/
theorem enter_functions (h : Harvest) (s : Scope) (n : AstNode) : (h.enter s n).2.functions =
    if isFunction n then (h.addFunction s n).functions else h.functions := by
  unfold Harvest.enter isFunction
  cases n.kind <;> first | rfl | (cases n.callee?.or n.name <;> rfl)

theorem enter_counts (h : Harvest) (s : Scope) (n : AstNode) : (h.enter s n).2.counts =
    if isFunction n then (h.addFunction s n).counts else h.counts := by
  unfold Harvest.enter isFunction
  cases n.kind <;> first | rfl | (cases n.callee?.or n.name <;> rfl)

/-- A node adds the call it is, and nothing else. -/
theorem enter_calls (h : Harvest) (s : Scope) (n : AstNode) : (h.enter s n).2.calls =
    h.calls ++ ((calleeOf? n).map fun callee => ⟨s.file, s.function, callee, n.location.startLine⟩).toList := by
  unfold Harvest.enter calleeOf?
  cases n.kind <;> first | exact (List.append_nil _).symm | skip
  cases n.callee?.or n.name <;> simp

theorem functions_take (trees : List AstFile) (h : Harvest) (v : Visit) : (take trees h v).functions =
    if v.isFunction then h.functions ++ [v.record (h.counts.allocate v.base).1] else h.functions :=
  enter_functions h _ v.node

theorem counts_take (trees : List AstFile) (h : Harvest) (v : Visit) : (take trees h v).counts =
    if v.isFunction then (h.counts.allocate v.base).2 else h.counts :=
  enter_counts h _ v.node

theorem length_take (trees : List AstFile) (h : Harvest) (v : Visit) :
    (take trees h v).functions.length = h.functions.length + if v.isFunction then 1 else 0 := by
  rw [functions_take]
  split
  · exact List.length_append
  · rfl

theorem Reached.take (hreached : Reached trees h before (v :: rest)) :
    Reached trees (take trees h v) (before ++ [v]) rest where
  all := by rw [hreached.all, List.append_assoc, List.singleton_append]
  length := by
    rw [length_take, hreached.length, List.countP_append, List.countP_singleton]

theorem Reached.foldl (hreached : Reached trees h before (vs ++ rest)) :
    Reached trees (vs.foldl (Calling.take trees) h) (before ++ vs) rest := by
  induction vs generalizing h before with
  | nil => simpa using hreached
  | cons v vs ih => simpa using ih hreached.take

/-- A function gets the number of its place. -/
theorem Reached.number_eq (hreached : Reached trees h before (v :: rest)) (hv : v.isFunction = true) :
    number trees v.site = h.functions.length := by
  have hfunctions : functionsIn trees = before.filter Visit.isFunction ++ v :: rest.filter Visit.isFunction := by
    rw [functionsIn, hreached.all, List.filter_append, List.filter_cons_of_pos hv]
  have hnew : v.site ∉ (before.filter Visit.isFunction).map Visit.site := by
    intro hmem
    have hnodup := nodup_visits trees
    rw [hreached.all, List.map_append, List.map_cons, List.nodup_append] at hnodup
    refine hnodup.2.2 v.site ?_ v.site List.mem_cons_self rfl
    exact (List.filter_sublist.map Visit.site).subset hmem
  rw [number, hfunctions, List.map_append, List.map_cons, List.idxOf_append_of_notMem hnew, List.idxOf_cons_self,
    Nat.add_zero, List.length_map, ← List.countP_eq_length_filter, hreached.length]

/-- The scope inside a node is the one of its way. -/
theorem Reached.scope_eq (hreached : Reached trees h before (v :: rest)) :
    (h.enter (scopeBelow trees v.tree v.file v.way.tail) v.node).1 = scopeBelow trees v.tree v.file v.way := by
  have hmem : v ∈ visits trees := by simp [hreached.all]
  obtain ⟨-, hway, hnode⟩ := mem_visits_iff.mp hmem
  obtain ⟨i, up, hup⟩ := List.exists_cons_of_ne_nil hway
  rw [hup] at hnode
  simp only [enter_fst, scopeBelow, typeAround?, functionAround?, hup, List.tail_cons, AstNode.innermost?_cons hnode]
  by_cases hfunction : isFunction v.node = true
  · rw [← hreached.number_eq hfunction]
    simp [hfunction, Visit.site, hup]
  · by_cases htype : isType v.node = true <;> simp [hfunction, htype]

mutual

theorem walk_eq {trees : List AstFile} {t : AstFile} {tree : Nat} {n : AstNode} {h : Harvest}
    {before rest : List Visit} {up : List Nat} {i : Nat}
    (hreached : Reached trees h before (visitsOf tree t (n.ways (i :: up)) ++ rest)) :
    walk (scopeBelow trees tree t up) h n = (visitsOf tree t (n.ways (i :: up))).foldl (take trees) h := by
  match n with
  | ⟨id, kind, name, location, children, parent, metadata⟩ =>
    rw [AstNode.ways, visitsOf_cons] at hreached ⊢
    -- the scope that is handed down is that of the way to the node
    have hscope := hreached.scope_eq
    dsimp only [List.tail_cons] at hscope
    rw [walk, List.foldl_cons]
    dsimp only
    rw [hscope]
    exact walkAll_eq hreached.take

theorem walkAll_eq {trees : List AstFile} {t : AstFile} {tree : Nat} {ns : List AstNode} {h : Harvest}
    {before rest : List Visit} {up : List Nat} {i : Nat}
    (hreached : Reached trees h before (visitsOf tree t (AstNode.waysOf up i ns) ++ rest)) :
    walkAll (scopeBelow trees tree t up) h ns = (visitsOf tree t (AstNode.waysOf up i ns)).foldl (take trees) h := by
  match ns with
  | [] => rfl
  | n :: ns =>
    rw [AstNode.waysOf, visitsOf_append, List.append_assoc] at hreached
    rw [walkAll, walk_eq hreached, walkAll_eq hreached.foldl, AstNode.waysOf, visitsOf_append, List.foldl_append]

end

theorem foldl_walkAll_eq {todo : List AstFile} (hreached : Reached trees h before (visitsFrom tree todo)) :
    todo.foldl (fun h t => walkAll ⟨t.path, none, none⟩ h t.root.children) h =
      (visitsFrom tree todo).foldl (take trees) h := by
  induction todo generalizing tree before h with
  | nil => rfl
  | cons t todo ih =>
    rw [visitsFrom_cons] at hreached ⊢
    have hwalk : walkAll ⟨t.path, none, none⟩ h t.root.children = _ := walkAll_eq hreached
    rw [List.foldl_cons, List.foldl_append, hwalk]
    exact ih hreached.foldl

/-- The functions and calls are those of the nodes, each taken in for itself. -/
theorem ofTrees_eq (trees : List AstFile) : Harvest.ofTrees trees = (visits trees).foldl (take trees) {} := by
  have hstart : Reached trees {} [] (visits trees) := ⟨rfl, rfl⟩
  exact foldl_walkAll_eq hstart

theorem calls_foldl_take (trees : List AstFile) (h : Harvest) (vs : List Visit) :
    (vs.foldl (take trees) h).calls = h.calls ++ vs.filterMap (Visit.call? trees) := by
  induction vs generalizing h with
  | nil => simp
  | cons v vs ih =>
    rw [List.foldl_cons, ih, take, enter_calls, List.append_assoc, List.filterMap_cons]
    unfold Visit.call? Visit.function?
    cases calleeOf? v.node <;> rfl

theorem functions_foldl_take {used : List String} (hcounts : h.counts.Counts used) (trees : List AstFile)
    (vs : List Visit) : (vs.foldl (take trees) h).functions = h.functions ++
      List.zipWith Visit.record (vs.filter Visit.isFunction)
        (IdCounts.numberedAfter used ((vs.filter Visit.isFunction).map Visit.base)) := by
  induction vs generalizing h used with
  | nil => simp
  | cons v vs ih =>
    rw [List.foldl_cons]
    by_cases hv : v.isFunction = true
    · have hcounts' : (take trees h v).counts.Counts (used ++ [v.base]) := by
        rw [counts_take, if_pos hv]
        exact hcounts.allocate v.base
      rw [ih hcounts', functions_take, if_pos hv, hcounts.allocate_fst_eq, List.filter_cons_of_pos hv, List.map_cons,
        IdCounts.numberedAfter, List.zipWith_cons_cons, List.append_assoc, List.singleton_append]
    · have hcounts' : (take trees h v).counts.Counts used := by rwa [counts_take, if_neg hv]
      rw [ih hcounts', functions_take, if_neg hv, List.filter_cons_of_neg hv]

/-- The ids of the functions, in their order. -/
def idsIn (trees : List AstFile) : List String := IdCounts.numberedAfter [] ((functionsIn trees).map Visit.base)

theorem functions_ofTrees (trees : List AstFile) :
    (Harvest.ofTrees trees).functions = List.zipWith Visit.record (functionsIn trees) (idsIn trees) := by
  rw [ofTrees_eq, functions_foldl_take IdCounts.counts_nil]
  rfl

theorem calls_ofTrees (trees : List AstFile) :
    (Harvest.ofTrees trees).calls = (visits trees).filterMap (Visit.call? trees) := by
  rw [ofTrees_eq, calls_foldl_take]
  rfl

theorem length_idsIn (trees : List AstFile) : (idsIn trees).length = (functionsIn trees).length := by
  rw [idsIn, IdCounts.length_numberedAfter, List.length_map]

theorem getElem?_functions_iff : (Harvest.ofTrees trees).functions[i]? = some f ↔
    ∃ v id, (functionsIn trees)[i]? = some v ∧ (idsIn trees)[i]? = some id ∧ v.record id = f := by
  rw [functions_ofTrees, List.getElem?_zipWith_eq_some]

/-- The functions with their ids. -/
def identified (trees : List AstFile) : List (Visit × String) := (functionsIn trees).zip (idsIn trees)

theorem mem_identified_iff : (v, id) ∈ identified trees ↔
    ∃ i : Nat, (functionsIn trees)[i]? = some v ∧ (idsIn trees)[i]? = some id := by
  simp only [identified, List.mem_iff_getElem?, List.getElem?_zip_eq_some]

theorem mem_functions_iff : f ∈ (Harvest.ofTrees trees).functions ↔
    ∃ v id, (v, id) ∈ identified trees ∧ v.record id = f := by
  rw [List.mem_iff_getElem?]
  simp only [getElem?_functions_iff, mem_identified_iff]
  constructor
  · rintro ⟨i, v, id, hv, hid, hf⟩
    exact ⟨v, id, ⟨i, hv, hid⟩, hf⟩
  · rintro ⟨v, id, ⟨i, hv, hid⟩, hf⟩
    exact ⟨i, v, id, hv, hid, hf⟩

theorem mem_visits_of_mem_identified (h : (v, id) ∈ identified trees) : v ∈ visits trees :=
  (List.mem_filter.mp (List.of_mem_zip h).1).1

end CodeAudit.Calling
