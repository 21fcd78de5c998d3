import CodeAudit.Ast.File
import CodeAudit.Proofs.Numbering
import CodeAudit.Proofs.Outline.Ways
import Mathlib.Data.List.Count

/-! Ids and parent links of a parsed tree. Ids are given in the order of a walk, parents first, so that they are the
numbered places of that walk; a place tells type and position and nothing else. -/
namespace CodeAudit

open IdCounts

theorem NodeKind.name_injective : Function.Injective NodeKind.name := by
  intro k k' h
  have hread := NodeKind.ofName?_name k
  rw [h, NodeKind.ofName?_name] at hread
  exact (Option.some.inj hread).symm

namespace AstNode

variable {root n m : AstNode} {ns : List AstNode} {parent : Option String} {counts : IdCounts} {used : List String}
  {up : List Nat} {i : Nat}

mutual

/-- The tree without its ids and parent links. -/
def bare (n : AstNode) : AstNode :=
  match n with
  | ⟨_, kind, name, location, children, _, metadata⟩ => ⟨"", kind, name, location, bareAll children, none, metadata⟩

def bareAll : List AstNode → List AstNode
  | [] => []
  | n :: rest => bare n :: bareAll rest

end

/-- Type and position. -/
structure Place where
  kind : NodeKind
  startLine : Nat
  startColumn : Nat
  endLine : Nat
  endColumn : Nat
deriving DecidableEq

def place (n : AstNode) : Place :=
  ⟨n.kind, n.location.startLine, n.location.startColumn, n.location.endLine, n.location.endColumn⟩

/-- The id of a node that is the first one at its place. -/
def placeId (p : Place) : String := positionId p.kind ⟨"", p.startLine, p.startColumn, p.endLine, p.endColumn⟩

/-- A list of all nodes of a tree, each once and in lexicographic order of the child numbers on the way from the root:
a node comes before those below it, and those below one child before those below the next. -/
def IsPreorder (root : AstNode) (visited : List AstNode) : Prop :=
  ∃ addresses : List (List Nat), addresses.Pairwise (· < ·) ∧
    (∀ address, address ∈ addresses ↔ (root.at? address.reverse).isSome) ∧
    visited.map some = addresses.map fun address => root.at? address.reverse

theorem isPreorder_nodes (root : AstNode) : IsPreorder root root.nodes := by
  refine ⟨(ways [] root).map fun e => e.1.reverse, pairwise_ways, fun address => ?_, ?_⟩
  · rw [List.mem_map, Option.isSome_iff_exists]
    constructor
    · rintro ⟨⟨w, m⟩, hw, rfl⟩
      obtain ⟨tail, rfl, hm⟩ := mem_ways.mp hw
      exact ⟨m, by simpa using hm⟩
    · rintro ⟨m, hm⟩
      exact ⟨(address.reverse, m), mem_ways.mpr ⟨address.reverse, by simp, hm⟩, by simp⟩
  · rw [← map_snd_ways [], List.map_map, List.map_map]
    refine List.map_congr_left fun e he => ?_
    obtain ⟨tail, hw, hm⟩ := mem_ways.mp he
    rw [List.append_nil] at hw
    simp [hw, hm]

/-! ### The walk with a stack -/

theorem nodesOf_append (xs ys : List AstNode) : nodesOf (xs ++ ys) = nodesOf xs ++ nodesOf ys := by
  induction xs with
  | nil => rfl
  | cons n rest ih => rw [List.cons_append, nodesOf, nodesOf, ih, List.append_assoc]

/-- The top of the stack is visited, and its children take its place. -/
theorem nodesOf_cons (n : AstNode) (rest : List AstNode) :
    nodesOf (n :: rest) = n :: nodesOf (n.children ++ rest) := by
  obtain ⟨id, kind, name, location, children, parent, metadata⟩ := n
  rw [nodesOf, nodes, nodesOf_append, List.cons_append]

/-- The nodes that a walk visits which takes the top of a stack, here its head, and puts the children there. -/
def visit (stack : List AstNode) : List AstNode :=
  match stack with
  | [] => []
  | n :: rest => n :: visit (n.children ++ rest)
termination_by (nodesOf stack).length
decreasing_by
  rw [nodesOf_cons, List.length_cons]
  exact Nat.lt_succ_self _

theorem visit_eq_nodesOf (stack : List AstNode) : visit stack = nodesOf stack := by
  induction stack using visit.induct with
  | case1 => rw [visit, nodesOf]
  | case2 n rest ih => rw [visit, ih, nodesOf_cons]

/-! ### What ids leave as it is -/

mutual

theorem bare_assignIds {n : AstNode} {parent : Option String} {counts : IdCounts} :
    (assignIds parent counts n).1.bare = n.bare := by
  match n with
  | ⟨_, kind, name, location, children, _, metadata⟩ => rw [assignIds, bare, bare, bareAll_assignIdsOf]

theorem bareAll_assignIdsOf {ns : List AstNode} {parent : Option String} {counts : IdCounts} :
    bareAll (assignIdsOf parent counts ns).1 = bareAll ns := by
  match ns with
  | [] => rfl
  | n :: rest => rw [assignIdsOf, bareAll, bareAll, bare_assignIds, bareAll_assignIdsOf]

end

mutual

theorem map_place_bare {n : AstNode} : n.bare.nodes.map place = n.nodes.map place := by
  match n with
  | ⟨_, kind, name, location, children, _, metadata⟩ =>
    rw [bare, nodes, nodes, List.map_cons, List.map_cons, map_place_bareAll]
    rfl

theorem map_place_bareAll {ns : List AstNode} : (nodesOf (bareAll ns)).map place = (nodesOf ns).map place := by
  match ns with
  | [] => rfl
  | n :: rest =>
    rw [bareAll, nodesOf, nodesOf, List.map_append, List.map_append, map_place_bare, map_place_bareAll]

end

theorem map_place_assignIds : (assignIds parent counts n).1.nodes.map place = n.nodes.map place := by
  rw [← map_place_bare, bare_assignIds, map_place_bare]

/-! ### Parent links -/

/-- Whatever stands right below a node of the tree names that node as its parent. -/
def Linked (root : AstNode) : Prop := ∀ m ∈ root.nodes, ∀ c ∈ m.children, c.parent = some m.id

theorem parent_assignIds : (assignIds parent counts n).1.parent = parent := by
  obtain ⟨id, kind, name, location, children, parent, metadata⟩ := n
  rfl

theorem parent_of_mem_assignIdsOf (h : n ∈ (assignIdsOf parent counts ns).1) : n.parent = parent := by
  induction ns generalizing counts with
  | nil => cases h
  | cons m rest ih =>
    rw [assignIdsOf, List.mem_cons] at h
    rcases h with rfl | h
    · exact parent_assignIds
    · exact ih h

mutual

theorem linked_assignIds {n : AstNode} {parent : Option String} {counts : IdCounts} :
    (assignIds parent counts n).1.Linked := by
  match n with
  | ⟨_, kind, name, location, children, _, metadata⟩ =>
    intro m hm c hc
    rw [assignIds, nodes, List.mem_cons] at hm
    rcases hm with rfl | hm
    · exact parent_of_mem_assignIdsOf hc
    · exact linked_assignIdsOf m hm c hc

theorem linked_assignIdsOf {ns : List AstNode} {parent : Option String} {counts : IdCounts} :
    ∀ m ∈ nodesOf (assignIdsOf parent counts ns).1, ∀ c ∈ m.children, c.parent = some m.id := by
  match ns with
  | [] => simp [assignIdsOf, nodesOf]
  | n :: rest =>
    intro m hm c hc
    rw [assignIdsOf, nodesOf, List.mem_append] at hm
    rcases hm with hm | hm
    · exact linked_assignIds m hm c hc
    · exact linked_assignIdsOf m hm c hc

end

/-- The link is that of the tree. -/
theorem Linked.parent_at? (h : root.Linked) (hn : root.at? (i :: up) = some n) :
    ∃ m, root.at? up = some m ∧ n.parent = some m.id := by
  obtain ⟨m, hm, hchild⟩ := Option.bind_eq_some_iff.mp hn
  have hmem : m ∈ root.nodes := by
    rw [← map_snd_ways []]
    exact List.mem_map.mpr ⟨(up, m), mem_ways.mpr ⟨up, by simp, hm⟩, rfl⟩
  exact ⟨m, hm, h m hmem n (List.mem_of_getElem? hchild)⟩

/-! ### Ids -/

mutual

/-- The ids along the walk are the numbered places, and the counters know what was used. -/
theorem ids_assignIds (n : AstNode) (parent : Option String) {counts : IdCounts} {used : List String}
    (h : counts.Counts used) :
    (assignIds parent counts n).1.nodes.map (·.id) = numberedAfter used (n.nodes.map fun m => placeId m.place) ∧
      (assignIds parent counts n).2.Counts (used ++ n.nodes.map fun m => placeId m.place) := by
  match n with
  | ⟨_, kind, name, location, children, _, metadata⟩ =>
    obtain ⟨hids, hcounts⟩ := ids_assignIdsOf children _ (h.allocate (positionId kind location))
    rw [assignIds, nodes, nodes, List.map_cons, List.map_cons, numberedAfter]
    constructor
    · exact congrArg₂ List.cons (h.allocate_fst_eq _) hids
    · rw [List.append_assoc] at hcounts
      exact hcounts

theorem ids_assignIdsOf (ns : List AstNode) (parent : Option String) {counts : IdCounts} {used : List String}
    (h : counts.Counts used) :
    (nodesOf (assignIdsOf parent counts ns).1).map (·.id) =
        numberedAfter used ((nodesOf ns).map fun m => placeId m.place) ∧
      (assignIdsOf parent counts ns).2.Counts (used ++ (nodesOf ns).map fun m => placeId m.place) := by
  match ns with
  | [] => simpa [assignIdsOf, nodesOf, numberedAfter] using h
  | n :: rest =>
    obtain ⟨hids, hcounts⟩ := ids_assignIds n parent h
    obtain ⟨hidsRest, hcountsRest⟩ := ids_assignIdsOf rest parent hcounts
    rw [assignIdsOf, nodesOf, nodesOf, List.map_append, List.map_append, numberedAfter_append, hids, hidsRest]
    rw [List.append_assoc] at hcountsRest
    exact ⟨rfl, hcountsRest⟩

end

theorem toList_placeId (kind : NodeKind) (a b c d : Nat) :
    (placeId ⟨kind, a, b, c, d⟩).toList =
      (((kind.name.toList ++ '@' :: a.repr.toList) ++ ':' :: b.repr.toList) ++ '-' :: c.repr.toList) ++
        ':' :: d.repr.toList := by
  simp [placeId, positionId, toString]

theorem plain_placeId (p : Place) : Plain (placeId p) := by
  obtain ⟨kind, a, b, c, d⟩ := p
  exact plain_of_toList (toList_placeId kind a b c d) (notMem_repr rfl d) (by decide) (by decide)

/-- The parts of an id are found again from its end, where each is a number up to the sign before it. -/
theorem placeId_injective : Function.Injective placeId := by
  rintro ⟨kind, a, b, c, d⟩ ⟨kind', a', b', c', d'⟩ h
  have hlist := congrArg String.toList h
  rw [toList_placeId, toList_placeId,
    append_cons_inj_of_notMem_right (notMem_repr rfl d) (notMem_repr rfl d'),
    append_cons_inj_of_notMem_right (notMem_repr rfl c) (notMem_repr rfl c'),
    append_cons_inj_of_notMem_right (notMem_repr rfl b) (notMem_repr rfl b'),
    append_cons_inj_of_notMem_right (notMem_repr rfl a) (notMem_repr rfl a')] at hlist
  obtain ⟨⟨⟨⟨hkind, -, ha⟩, -, hb⟩, -, hc⟩, -, hd⟩ := hlist
  rw [NodeKind.name_injective (String.toList_inj.mp hkind), eq_of_toList_repr ha, eq_of_toList_repr hb,
    eq_of_toList_repr hc, eq_of_toList_repr hd]

theorem ids_eq_numberedAfter (root : AstNode) :
    (root.assignIds none []).1.nodes.map (·.id) =
      numberedAfter [] (((root.assignIds none []).1.nodes.map place).map placeId) := by
  rw [map_place_assignIds, List.map_map]
  exact (ids_assignIds root none counts_nil).1

theorem nodup_ids (root : AstNode) : ((root.assignIds none []).1.nodes.map (·.id)).Nodup := by
  rw [ids_eq_numberedAfter]
  refine nodup_numberedAfter fun b hb => ?_
  obtain ⟨p, -, rfl⟩ := List.mem_map.mp hb
  exact plain_placeId p

/-- The ids that were used before are those of the places that were visited before. -/
theorem id_eq_tagged {k : Nat} (h : (root.assignIds none []).1.nodes[k]? = some n) :
    n.id = tagged (positionId n.kind n.location)
      ((((root.assignIds none []).1.nodes.take k).map place).count n.place) := by
  have hid := congrArg (fun ids => ids[k]?) (ids_eq_numberedAfter root)
  simp only [getElem?_numberedAfter, List.getElem?_map, h, Option.map_some, List.nil_append,
    ← List.map_take] at hid
  rw [List.count_map_of_injective _ _ placeId_injective] at hid
  exact Option.some.inj hid

end AstNode

namespace AstFile

open AstNode

/-- A parsed file holds the tree that it was given, with ids that differ and links to the parents. Its nodes come in
preorder, as a walk with a stack visits them, and each id tells type, position and how many nodes before share them. -/
theorem ofTree_numbered (path : String) (language : Language) (root : AstNode) (imports : List ImportInfo)
    (exports : List ExportInfo) (contentHash : String) (fidelity : Fidelity) :
    let file := ofTree path language root imports exports contentHash fidelity
    file.root.bare = root.bare ∧
      (file.nodes.map (·.id)).Nodup ∧
      file.root.parent = none ∧
      (∀ i up n, file.root.at? (i :: up) = some n → ∃ m, file.root.at? up = some m ∧ n.parent = some m.id) ∧
      IsPreorder file.root file.nodes ∧
      visit [file.root] = file.nodes ∧
      ∀ k n, file.nodes[k]? = some n →
        n.id = tagged (positionId n.kind n.location) (((file.nodes.take k).map place).count n.place) := by
  intro file
  refine ⟨bare_assignIds, nodup_ids root, parent_assignIds, fun i up n => linked_assignIds.parent_at?,
    isPreorder_nodes file.root, ?_, fun k n => id_eq_tagged⟩
  rw [visit_eq_nodesOf, nodesOf, nodesOf, List.append_nil]
  rfl

/-- Two calls at one place below a function. -/
example :
    let call : AstNode := { kind := .call, location := ⟨"a.py", 2, 5, 2, 9⟩ }
    let function : AstNode := { kind := .function, location := ⟨"a.py", 1, 1, 2, 9⟩, children := [call, call] }
    (ofTree "a.py" .python function [] [] "" .full).nodes.map (fun n => (n.id, n.parent)) =
      [("function@1:1-2:9", none), ("call@2:5-2:9", some "function@1:1-2:9"),
        ("call@2:5-2:9#1", some "function@1:1-2:9")] := by
  decide

end AstFile
end CodeAudit
