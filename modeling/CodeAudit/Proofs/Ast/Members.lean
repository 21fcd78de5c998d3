import CodeAudit.Ast.Members
import CodeAudit.Proofs.Ast.NodeIds

/-! What annotating a tree writes. The class and the function that a node is told of are those of its way: every node
on the way sets them anew, keeps them or takes them away. Ids and parent links, given afterwards, change nothing of
that. -/
namespace CodeAudit

theorem Metadata.get?_insert_self (m : Metadata) (k : String) (v : MetaValue) : (m.insert k v).get? k = some v := by
  induction m with
  | nil => simp [Metadata.insert, Metadata.get?]
  | cons e rest ih =>
    obtain ⟨k', v'⟩ := e
    rw [Metadata.insert]
    split
    · simp [Metadata.get?]
    · split
      · simp [Metadata.get?]
      · rename_i hne
        have hlater : (k == k') = false := beq_eq_false_iff_ne.mpr hne
        rw [Metadata.get?, List.lookup_cons, hlater]
        exact ih

namespace AstNode

variable {root root' n m : AstNode} {up way : List Nat} {i : Nat}

/-- What decides about the scope inside a node. -/
def label (n : AstNode) : NodeKind × Option String := (n.kind, n.name)

/-- The class and the function that hold what lies below a way. -/
def scopeAt (root : AstNode) : (way : List Nat) → Option String × Option String
  | [] => scopeBelow root none none
  | i :: up =>
    match root.at? (i :: up) with
    | some n => scopeBelow n (root.scopeAt up).1 (root.scopeAt up).2
    | none => root.scopeAt up

/-- A node with everything below it, annotated in a scope. -/
def annotatedIn (scope : Option String × Option String) (n : AstNode) : AstNode :=
  stamp scope.1 scope.2 (annotateMembers scope.1 scope.2 n)

theorem annotateAll_eq_map (owner function : Option String) (ns : List AstNode) :
    annotateAll owner function ns = ns.map (annotatedIn (owner, function)) := by
  induction ns with
  | nil => rfl
  | cons n rest ih => rw [annotateAll, ih, List.map_cons, annotatedIn]

theorem children_annotateMembers (owner function : Option String) (n : AstNode) :
    (annotateMembers owner function n).children = n.children.map (annotatedIn (scopeBelow n owner function)) := by
  obtain ⟨id, kind, name, location, children, parent, metadata⟩ := n
  rw [annotateMembers, annotateAll_eq_map]
  rfl

theorem label_annotateMembers (owner function : Option String) (n : AstNode) :
    (annotateMembers owner function n).label = n.label := by
  obtain ⟨id, kind, name, location, children, parent, metadata⟩ := n
  rfl

/-- A stamp is a matter of metadata. -/
theorem map_stamp {α : Type} (f : AstNode → α) (hf : ∀ n k v, f (n.setMeta k v) = f n) (owner function : Option String)
    (n : AstNode) : f (stamp owner function n) = f n := by
  unfold stamp
  split
  · dsimp only
    split <;> simp only [hf]
  · exact hf _ _ _
  · rfl

theorem children_annotatedIn (scope : Option String × Option String) (n : AstNode) :
    (annotatedIn scope n).children = n.children.map (annotatedIn (scopeBelow n scope.1 scope.2)) := by
  rw [annotatedIn, map_stamp children fun _ _ _ => rfl, children_annotateMembers]

theorem label_annotatedIn (scope : Option String × Option String) (n : AstNode) :
    (annotatedIn scope n).label = n.label := by
  rw [annotatedIn, map_stamp label fun _ _ _ => rfl, label_annotateMembers]

/-- A call is told the function that holds it, or the module. -/
theorem caller?_annotatedIn (scope : Option String × Option String) (hn : n.kind = .call) :
    (annotatedIn scope n).caller? = some (scope.2.getD moduleCaller) := by
  have hkind : (annotateMembers scope.1 scope.2 n).kind = .call := by
    rw [← hn]
    exact congrArg Prod.fst (label_annotateMembers scope.1 scope.2 n)
  have hstamp : annotatedIn scope n =
      (annotateMembers scope.1 scope.2 n).setMeta "caller" (.text (scope.2.getD moduleCaller)) := by
    simp only [annotatedIn, stamp, hkind]
  rw [hstamp, caller?, text?, meta?, setMeta, Metadata.get?_insert_self]
  rfl

theorem at?_cons_of_children {f : AstNode → AstNode}
    (h : (root'.at? up).map (·.children) = (root.at? up).map fun n => n.children.map f) (i : Nat) :
    root'.at? (i :: up) = (root.at? (i :: up)).map f := by
  have hbind (r : AstNode) : r.at? (i :: up) = ((r.at? up).map (·.children)).bind fun ns => ns[i]? := by
    rw [at?, Option.bind_map]
    rfl
  rw [hbind root', h, at?, Option.bind_map, Option.map_bind]
  congr 1
  funext n
  exact List.getElem?_map ..

/-- Below a way all children are annotated in the scope of the way. -/
theorem children_at?_annotateMembers (root : AstNode) (up : List Nat) :
    ((root.annotateMembers none none).at? up).map (·.children) =
      (root.at? up).map fun n => n.children.map (annotatedIn (root.scopeAt up)) := by
  induction up with
  | nil => exact congrArg some (children_annotateMembers none none root)
  | cons i up ih =>
    rw [at?_cons_of_children ih, Option.map_map]
    cases hn : root.at? (i :: up) with
    | none => rfl
    | some n =>
      simp only [Option.map_some, Function.comp_apply, children_annotatedIn, scopeAt, hn]

/-- A node of the annotated tree is the one of the tree, annotated in the scope of its way. -/
theorem at?_annotateMembers (root : AstNode) (i : Nat) (up : List Nat) :
    (root.annotateMembers none none).at? (i :: up) = (root.at? (i :: up)).map (annotatedIn (root.scopeAt up)) :=
  at?_cons_of_children (children_at?_annotateMembers root up) i

theorem label_at?_annotateMembers (root : AstNode) (way : List Nat) :
    ((root.annotateMembers none none).at? way).map label = (root.at? way).map label := by
  cases way with
  | nil => exact congrArg some (label_annotateMembers none none root)
  | cons i up => simp [at?_annotateMembers, Option.map_map, Function.comp_def, label_annotatedIn]

theorem bareAll_eq_map (ns : List AstNode) : bareAll ns = ns.map bare := by
  induction ns with
  | nil => rfl
  | cons n rest ih => rw [bareAll, ih, List.map_cons]

theorem children_bare (n : AstNode) : n.bare.children = n.children.map bare := by
  obtain ⟨id, kind, name, location, children, parent, metadata⟩ := n
  rw [bare, bareAll_eq_map]

theorem at?_bare (root : AstNode) (way : List Nat) : root.bare.at? way = (root.at? way).map bare := by
  induction way with
  | nil => rfl
  | cons i up ih =>
    refine at?_cons_of_children (f := bare) ?_ i
    simp [ih, Option.map_map, Function.comp_def, children_bare]

theorem label_bare (n : AstNode) : n.bare.label = n.label := by
  obtain ⟨id, kind, name, location, children, parent, metadata⟩ := n
  rfl

theorem metadata_bare (n : AstNode) : n.bare.metadata = n.metadata := by
  obtain ⟨id, kind, name, location, children, parent, metadata⟩ := n
  rfl

theorem exists_of_at?_assignIds (h : (root.assignIds none []).1.at? way = some n) :
    ∃ m, root.at? way = some m ∧ n.label = m.label ∧ n.metadata = m.metadata := by
  have hbare : (root.at? way).map bare = some n.bare := by
    have hids : (root.assignIds none []).1.bare = root.bare := bare_assignIds
    rw [← at?_bare, ← hids, at?_bare, h, Option.map_some]
  obtain ⟨m, hm, heq⟩ := Option.map_eq_some_iff.mp hbare
  refine ⟨m, hm, ?_, ?_⟩
  · rw [← label_bare n, ← heq, label_bare]
  · rw [← metadata_bare n, ← heq, metadata_bare]

theorem label_at?_assignIds (root : AstNode) (way : List Nat) :
    ((root.assignIds none []).1.at? way).map label = (root.at? way).map label := by
  have hbare : ((root.assignIds none []).1.at? way).map bare = (root.at? way).map bare := by
    rw [← at?_bare, bare_assignIds, at?_bare]
  have hlabel := congrArg (Option.map label) hbare
  simpa [Option.map_map, Function.comp_def, label_bare] using hlabel

/-- Scopes are made of kinds and names. -/
theorem scopeAt_congr (h : ∀ way, (root.at? way).map label = (root'.at? way).map label) (way : List Nat) :
    root.scopeAt way = root'.scopeAt way := by
  have hbelow {n m : AstNode} (hlabel : n.label = m.label) (owner function : Option String) :
      scopeBelow n owner function = scopeBelow m owner function := by
    obtain ⟨hkind, hname⟩ := Prod.mk.inj hlabel
    rw [scopeBelow, scopeBelow, hkind, hname]
  induction way with
  | nil => exact hbelow (Option.some.inj (h [])) none none
  | cons i up ih =>
    have hlabel := h (i :: up)
    rw [scopeAt, scopeAt, ih]
    cases hn : root.at? (i :: up) with
    | none =>
      rw [hn] at hlabel
      rw [Option.map_eq_none_iff.mp hlabel.symm]
    | some n =>
      rw [hn] at hlabel
      obtain ⟨m, hm, heq⟩ := Option.map_eq_some_iff.mp hlabel.symm
      rw [hm]
      exact hbelow heq.symm _ _

/-- In a finished tree every call names the function that holds it. -/
theorem caller?_finished (root : AstNode)
    (hn : ((root.annotateMembers none none).assignIds none []).1.at? (i :: up) = some n) (hcall : n.kind = .call) :
    n.caller? =
      some ((((root.annotateMembers none none).assignIds none []).1.scopeAt up).2.getD moduleCaller) := by
  obtain ⟨m, hm, hlabel, hfacts⟩ := exists_of_at?_assignIds hn
  rw [at?_annotateMembers] at hm
  obtain ⟨o, -, rfl⟩ := Option.map_eq_some_iff.mp hm
  have hkind : o.kind = .call := by
    rw [← hcall]
    exact (congrArg Prod.fst (hlabel.trans (label_annotatedIn _ o))).symm
  have hscope : ((root.annotateMembers none none).assignIds none []).1.scopeAt up = root.scopeAt up :=
    scopeAt_congr (fun way => (label_at?_assignIds _ way).trans (label_at?_annotateMembers root way)) up
  rw [hscope, ← caller?_annotatedIn (root.scopeAt up) hkind, caller?, text?, meta?, hfacts]
  rfl

end AstNode
end CodeAudit
