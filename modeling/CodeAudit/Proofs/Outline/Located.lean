import CodeAudit.Outline.File

/-! Where the nodes of a tree lie. Whatever the language, a tree is outlined from the spans of one text,
so that all its nodes lie in the file that was read. Each construct of an outline gets one lemma, which
needs no more than that what is collected below the construct lies in the file. -/
namespace CodeAudit

open Syntax

namespace AstNode

variable {n m : AstNode} {path : String}

theorem mem_nodesOf {ns : List AstNode} : m ∈ nodesOf ns ↔ ∃ n ∈ ns, m ∈ n.nodes := by
  induction ns with
  | nil => simp [nodesOf]
  | cons n rest ih => simp [nodesOf, ih]

/-- The node and all below it lie in the file. -/
def LiesIn (n : AstNode) (path : String) : Prop := ∀ m ∈ n.nodes, m.location.file = path

theorem liesIn_iff : n.LiesIn path ↔ n.location.file = path ∧ ∀ c ∈ n.children, c.LiesIn path := by
  obtain ⟨id, kind, name, location, children, parent, metadata⟩ := n
  simp only [LiesIn, nodes, List.mem_cons, forall_eq_or_imp, mem_nodesOf]
  constructor
  · rintro ⟨hroot, hbelow⟩
    exact ⟨hroot, fun c hc m hm => hbelow m ⟨c, hc, hm⟩⟩
  · rintro ⟨hroot, hbelow⟩
    constructor
    · exact hroot
    · rintro m ⟨c, hc, hm⟩
      exact hbelow c hc m hm

@[simp] theorem location_setMeta (k : String) (v : MetaValue) : (n.setMeta k v).location = n.location := rfl

@[simp] theorem children_setMeta (k : String) (v : MetaValue) : (n.setMeta k v).children = n.children := rfl

theorem liesIn_setMeta (k : String) (v : MetaValue) : (n.setMeta k v).LiesIn path ↔ n.LiesIn path := by
  rw [liesIn_iff, liesIn_iff, location_setMeta, children_setMeta]

theorem liesIn_stamp (owner function : Option String) : (stamp owner function n).LiesIn path ↔ n.LiesIn path := by
  unfold stamp
  split
  · simp only
    split <;> simp only [liesIn_setMeta]
  · exact liesIn_setMeta _ _
  · exact Iff.rfl

mutual

theorem LiesIn.annotateMembers {n : AstNode} (h : n.LiesIn path) (owner function : Option String) :
    (annotateMembers owner function n).LiesIn path := by
  match n with
  | ⟨id, kind, name, location, children, parent, metadata⟩ =>
    obtain ⟨hroot, hbelow⟩ := liesIn_iff.mp h
    rw [AstNode.annotateMembers]
    exact liesIn_iff.mpr ⟨hroot, liesIn_annotateAll hbelow _ _⟩

theorem liesIn_annotateAll {ns : List AstNode} (h : ∀ n ∈ ns, n.LiesIn path) (owner function : Option String) :
    ∀ n ∈ annotateAll owner function ns, n.LiesIn path := by
  match ns with
  | [] =>
    intro n hn
    cases hn
  | n :: rest =>
    obtain ⟨hn, hrest⟩ := List.forall_mem_cons.mp h
    rw [AstNode.annotateAll]
    refine List.forall_mem_cons.mpr ⟨?_, liesIn_annotateAll hrest owner function⟩
    exact (liesIn_stamp owner function).mpr (hn.annotateMembers owner function)

end

mutual

theorem LiesIn.assignIds {n : AstNode} (h : n.LiesIn path) (parent : Option String) (counts : IdCounts) :
    (assignIds parent counts n).1.LiesIn path := by
  match n with
  | ⟨id, kind, name, location, children, _, metadata⟩ =>
    obtain ⟨hroot, hbelow⟩ := liesIn_iff.mp h
    rw [AstNode.assignIds]
    exact liesIn_iff.mpr ⟨hroot, liesIn_assignIdsOf hbelow _ _⟩

theorem liesIn_assignIdsOf {ns : List AstNode} (h : ∀ n ∈ ns, n.LiesIn path) (parent : Option String)
    (counts : IdCounts) : ∀ n ∈ (assignIdsOf parent counts ns).1, n.LiesIn path := by
  match ns with
  | [] =>
    intro n hn
    cases hn
  | n :: rest =>
    obtain ⟨hn, hrest⟩ := List.forall_mem_cons.mp h
    rw [AstNode.assignIdsOf]
    exact List.forall_mem_cons.mpr ⟨hn.assignIds parent counts, liesIn_assignIdsOf hrest parent _⟩

end

end AstNode

namespace OutlineSource

variable (src : OutlineSource)

@[simp] theorem file_location_node (kind : NodeKind) (name : String) (t : Tree) (facts : List (String × MetaValue)) :
    (src.node kind name t facts).location.file = src.path := rfl

@[simp] theorem children_node (kind : NodeKind) (name : String) (t : Tree) (facts : List (String × MetaValue)) :
    (src.node kind name t facts).children = [] := rfl

@[simp] theorem file_location_call (callee text : String) (t : Tree) :
    (src.call callee text t).location.file = src.path := rfl

@[simp] theorem children_call (callee text : String) (t : Tree) : (src.call callee text t).children = [] := rfl

@[simp] theorem file_location_importNode (source : String) (specifiers : List String) (t : Tree) :
    (src.importNode source specifiers t).location.file = src.path := rfl

@[simp] theorem children_importNode (source : String) (specifiers : List String) (t : Tree) :
    (src.importNode source specifiers t).children = [] := rfl

end OutlineSource

namespace Outline

variable {a b o : Outline} {n : AstNode} {path : String}

/-- All nodes of the outline lie in the file. -/
def LiesIn (o : Outline) (path : String) : Prop := ∀ n ∈ o.nodes, n.LiesIn path

@[simp] theorem liesIn_mk_nil (imports : List ImportInfo) (exports : List ExportInfo) (package : Option String) :
    (Outline.mk [] imports exports package).LiesIn path := by
  intro n hn
  cases hn

@[simp] theorem liesIn_mk_singleton (imports : List ImportInfo) (exports : List ExportInfo)
    (package : Option String) :
    (Outline.mk [n] imports exports package).LiesIn path ↔
      n.location.file = path ∧ ∀ c ∈ n.children, c.LiesIn path := by
  rw [← AstNode.liesIn_iff]
  simp [LiesIn]

@[simp] theorem liesIn_ofNode :
    (ofNode n).LiesIn path ↔ n.location.file = path ∧ ∀ c ∈ n.children, c.LiesIn path :=
  liesIn_mk_singleton [] [] none

@[simp] theorem liesIn_append : (a ++ b).LiesIn path ↔ a.LiesIn path ∧ b.LiesIn path :=
  List.forall_mem_append

@[simp] theorem liesIn_below : (below n o).LiesIn path ↔ n.location.file = path ∧ o.LiesIn path :=
  liesIn_mk_singleton o.imports o.exports o.package

theorem liesIn_ite {c : Prop} [Decidable c] (ha : a.LiesIn path) (hb : b.LiesIn path) :
    (if c then a else b).LiesIn path := by
  split
  · exact ha
  · exact hb

theorem liesIn_foldl_append {parts : List Outline} :
    (parts.foldl append o).LiesIn path ↔ o.LiesIn path ∧ ∀ a ∈ parts, a.LiesIn path := by
  induction parts generalizing o with
  | nil => simp
  | cons a rest ih =>
    have happend : (o.append a).LiesIn path ↔ o.LiesIn path ∧ a.LiesIn path := liesIn_append
    rw [List.foldl_cons, ih, happend, List.forall_mem_cons, and_assoc]

theorem liesIn_concat_map {α : Type} {f : α → Outline} (h : ∀ x, (f x).LiesIn path) (xs : List α) :
    (concat (xs.map f)).LiesIn path := by
  rw [concat, liesIn_foldl_append]
  refine ⟨liesIn_mk_nil _ _ _, ?_⟩
  intro a ha
  obtain ⟨x, -, rfl⟩ := List.mem_map.mp ha
  exact h x

theorem liesIn_ofChild {collect : Tree → Outline} (h : ∀ t, (collect t).LiesIn path) (t : Tree) (r : Role) :
    (ofChild collect t r).LiesIn path := by
  unfold ofChild
  split
  · exact h _
  · exact liesIn_mk_nil _ _ _

theorem liesIn_getD_map {collect : Tree → Outline} (h : ∀ t, (collect t).LiesIn path) (t : Option Tree) :
    ((t.map collect).getD {}).LiesIn path := by
  cases t with
  | none => exact liesIn_mk_nil _ _ _
  | some t => exact h t

end Outline

theorem OutlineSource.liesIn_root (src : OutlineSource) {o : Outline} (h : o.LiesIn src.path) (span : Span)
    (hasErrors : Bool) : (src.root span hasErrors o).LiesIn src.path := by
  have htop : ∀ {n : AstNode}, n.location.file = src.path → n.children = o.nodes → n.LiesIn src.path := by
    intro n hfile hchildren
    rw [AstNode.liesIn_iff, hchildren]
    exact ⟨hfile, h⟩
  exact (htop rfl rfl).annotateMembers none none

namespace Outline.Go

variable (src : OutlineSource) {collect : Tree → Outline}

@[simp] theorem liesIn_exported (name kind : String) (t : Tree) (path : String) :
    (exported src name kind t).LiesIn path := by
  unfold exported
  split <;> exact liesIn_mk_nil _ _ _

theorem liesIn_importDecl (t : Tree) : (importDecl src t).LiesIn src.path := by
  refine liesIn_concat_map (fun spec => ?_) _
  split <;> simp

@[simp] theorem location_receiver (n : AstNode) (t : Tree) : (receiver src n t).location = n.location := by
  unfold receiver
  split
  · rfl
  · simp only
    split <;> split <;> rfl

theorem liesIn_function (h : ∀ t, (collect t).LiesIn src.path) (t : Tree) :
    (function src collect t).LiesIn src.path := by
  simp only [function, liesIn_append, liesIn_exported, liesIn_below, location_receiver,
    OutlineSource.file_location_node, true_and]
  exact liesIn_ofChild h t .body

theorem liesIn_typeSpec (anchor spec : Tree) : (typeSpec src anchor spec).LiesIn src.path := by
  simp only [typeSpec, liesIn_append, liesIn_exported, liesIn_ofNode, true_and]
  split
  · simp
  · split
    · split <;> simp
    · split <;> simp
    · simp

theorem liesIn_typeGroup (t : Tree) : (typeGroup src t).LiesIn src.path :=
  liesIn_concat_map (fun spec => liesIn_typeSpec src _ spec) _

theorem liesIn_bindings (h : ∀ t, (collect t).LiesIn src.path) (t : Tree) :
    (bindings src collect t).LiesIn src.path := by
  refine liesIn_concat_map (fun spec => ?_) _
  refine liesIn_append.mpr ⟨liesIn_concat_map (fun name => ?_) _, liesIn_getD_map h _⟩
  simp only [liesIn_append, liesIn_exported, liesIn_ofNode, true_and]
  split <;> simp

theorem liesIn_call (h : ∀ t, (collect t).LiesIn src.path) (t : Tree) : (call src collect t).LiesIn src.path := by
  unfold call
  split
  · exact liesIn_mk_nil _ _ _
  · rename_i callee _
    have hbefore := liesIn_ofChild h callee .object
    have hafter := liesIn_ofChild h t .arguments
    simp only [liesIn_append]
    refine ⟨⟨?_, ?_⟩, hafter⟩
    · split <;> simp [hbefore, h]
    · split
      · split <;> simp
      · simp

theorem liesIn_walk (fuel : Nat) (atPackage : Bool) (t : Tree) : (walk src fuel atPackage t).LiesIn src.path := by
  induction fuel generalizing atPackage t with
  | zero => exact liesIn_mk_nil _ _ _
  | succ fuel ih =>
    have hbelow : (concat (t.children.map (walk src fuel false))).LiesIn src.path :=
      liesIn_concat_map (ih false) _
    unfold walk
    simp only
    split
    · exact liesIn_mk_nil _ _ _
    · exact liesIn_importDecl src t
    · exact liesIn_function src (ih false) t
    · exact liesIn_typeGroup src t
    · split
      · exact liesIn_bindings src (ih false) t
      · exact hbelow
    · split
      · exact liesIn_bindings src (ih false) t
      · exact hbelow
    · exact liesIn_call src (ih false) t
    · exact hbelow

theorem liesIn_ofModule (t : Tree) : (ofModule src t).LiesIn src.path :=
  liesIn_concat_map (liesIn_walk src _ _) _

end Outline.Go

namespace Outline.Java

variable (src : OutlineSource) {collect : Place → Tree → Outline}

@[simp] theorem location_withTexts (n : AstNode) (key : String) (items : List String) :
    (withTexts n key items).location = n.location := by
  unfold withTexts
  split <;> rfl

theorem liesIn_declaredType (h : ∀ place t, (collect place t).LiesIn src.path) (place : Place) (t : Tree)
    (form : TypeForm) : (declaredType src collect place t form).LiesIn src.path := by
  simp only [declaredType, liesIn_append, liesIn_below, location_withTexts]
  refine ⟨liesIn_ite (liesIn_mk_nil _ _ _) (liesIn_mk_nil _ _ _), ?_, liesIn_ofChild (h _) t .body⟩
  split <;> rfl

theorem liesIn_method (h : ∀ place t, (collect place t).LiesIn src.path) (place : Place) (t : Tree) :
    (method src collect place t).LiesIn src.path := by
  simp only [method, liesIn_below, location_withTexts]
  refine ⟨?_, liesIn_ofChild (h _) t .body⟩
  split
  · split <;> rfl
  · rfl

theorem liesIn_field (h : ∀ place t, (collect place t).LiesIn src.path) (place : Place) (t : Tree) :
    (field src collect place t).LiesIn src.path := by
  refine liesIn_concat_map (fun d => ?_) _
  cases d.child? .value with
  | none => simp
  | some v => simp [h]

theorem liesIn_importDecl (t : Tree) : (importDecl src t).LiesIn src.path := by
  unfold importDecl
  split
  · exact liesIn_mk_nil _ _ _
  · simp only [liesIn_mk_singleton]
    split <;> simp

theorem liesIn_invocation (h : ∀ place t, (collect place t).LiesIn src.path) (place : Place) (t : Tree) :
    (invocation src collect place t).LiesIn src.path := by
  have hchild := liesIn_ofChild (h place) t
  unfold invocation
  simp only
  split <;> simp [hchild]

theorem liesIn_creation (h : ∀ place t, (collect place t).LiesIn src.path) (place : Place) (t : Tree) :
    (creation src collect place t).LiesIn src.path := by
  simp only [creation, liesIn_append]
  refine ⟨⟨?_, liesIn_ofChild (h place) t .arguments⟩, liesIn_getD_map (h place) _⟩
  split <;> simp

theorem liesIn_walk (fuel : Nat) (place : Place) (t : Tree) : (walk src fuel place t).LiesIn src.path := by
  induction fuel generalizing place t with
  | zero => exact liesIn_mk_nil _ _ _
  | succ fuel ih =>
    unfold walk
    simp only
    split
    case h_1 => exact liesIn_mk_nil _ _ _
    case h_2 => exact liesIn_importDecl src t
    case h_8 | h_9 => exact liesIn_method src ih place t
    case h_10 => exact liesIn_field src ih place t
    case h_11 => exact liesIn_invocation src ih place t
    case h_12 => exact liesIn_creation src ih place t
    case h_13 => exact liesIn_concat_map (ih place) _
    all_goals exact liesIn_declaredType src ih place t _

theorem liesIn_ofModule (t : Tree) : (ofModule src t).LiesIn src.path := by
  have hfold : ∀ (ts : List Tree) (o : Outline), o.LiesIn src.path →
      (ts.foldl (fun o c => o ++ walk src t.height { package := o.package } c) o).LiesIn src.path := by
    intro ts
    induction ts with
    | nil => exact fun o h => h
    | cons c rest ih => exact fun o h => ih _ (liesIn_append.mpr ⟨h, liesIn_walk src _ _ c⟩)
  exact hfold t.children {} (liesIn_mk_nil _ _ _)

end Outline.Java

namespace Outline.Python

variable (src : OutlineSource) {collect : Place → Tree → Outline}

@[simp] theorem location_withDecorators (n : AstNode) (decorators : List String) :
    (withDecorators n decorators).location = n.location := by
  unfold withDecorators
  split <;> rfl

theorem liesIn_classType (h : ∀ place t, (collect place t).LiesIn src.path) (place : Place) (t : Tree)
    (decorators : List String) : (classType src collect place t decorators).LiesIn src.path := by
  simp only [classType, liesIn_append, liesIn_below, location_withDecorators]
  refine ⟨liesIn_ite (liesIn_mk_nil _ _ _) (liesIn_mk_nil _ _ _), ?_, liesIn_ofChild (h _) t .body⟩
  split <;> rfl

theorem liesIn_function (h : ∀ place t, (collect place t).LiesIn src.path) (place : Place) (t : Tree)
    (decorators : List String) : (function src collect place t decorators).LiesIn src.path := by
  simp only [function, liesIn_append, liesIn_below, location_withDecorators]
  refine ⟨liesIn_ite (liesIn_mk_nil _ _ _) (liesIn_mk_nil _ _ _), ?_, liesIn_ofChild (h _) t .body⟩
  split <;> rfl

theorem liesIn_decorated (h : ∀ place t, (collect place t).LiesIn src.path) (place : Place) (t : Tree) :
    (decorated src collect place t).LiesIn src.path := by
  unfold decorated
  simp only
  split
  · exact liesIn_mk_nil _ _ _
  · split
    · exact liesIn_classType src h place _ _
    · exact liesIn_function src h place _ _
    · exact h place _

theorem liesIn_moduleStatement (h : ∀ place t, (collect place t).LiesIn src.path) (place : Place) (t : Tree) :
    (moduleStatement src collect place t).LiesIn src.path := by
  unfold moduleStatement
  simp only
  split
  · exact liesIn_concat_map (h _) _
  · simp only [liesIn_append, liesIn_ofNode]
    refine ⟨⟨liesIn_ite (liesIn_mk_nil _ _ _) (liesIn_mk_nil _ _ _), ?_⟩, liesIn_getD_map (h _) _⟩
    split <;> simp

theorem liesIn_importDecl (t : Tree) : (importDecl src t).LiesIn src.path := by
  refine liesIn_concat_map (fun n => ?_) _
  simp only [imported]
  split <;> simp

theorem liesIn_importFrom (t : Tree) : (importFrom src t).LiesIn src.path := by
  unfold importFrom
  split <;> simp [imported]

theorem liesIn_call (h : ∀ place t, (collect place t).LiesIn src.path) (place : Place) (t : Tree) :
    (call src collect place t).LiesIn src.path := by
  unfold call
  split
  · exact liesIn_mk_nil _ _ _
  · rename_i callee _
    have hbefore := liesIn_ofChild (h place) callee .object
    simp only [liesIn_append]
    refine ⟨⟨?_, ?_⟩, liesIn_ofChild (h place) t .arguments⟩
    · split <;> simp [hbefore, h]
    · split <;> simp

theorem liesIn_walk (fuel : Nat) (place : Place) (t : Tree) : (walk src fuel place t).LiesIn src.path := by
  induction fuel generalizing place t with
  | zero => exact liesIn_mk_nil _ _ _
  | succ fuel ih =>
    unfold walk
    simp only
    split
    · exact liesIn_importDecl src t
    · exact liesIn_importFrom src t
    · exact liesIn_classType src ih place t []
    · exact liesIn_function src ih place t []
    · exact liesIn_decorated src ih place t
    · split
      · exact liesIn_moduleStatement src ih place t
      · exact liesIn_concat_map (ih _) _
    · exact liesIn_call src ih _ t
    · exact liesIn_concat_map (ih _) _

theorem liesIn_ofModule (t : Tree) : (ofModule src t).LiesIn src.path :=
  liesIn_concat_map (liesIn_walk src _ _) _

end Outline.Python

namespace Outline.Script

variable (src : OutlineSource) {collect : Tree → Outline}

@[simp] theorem location_withTexts (n : AstNode) (key : String) (items : List String) :
    (withTexts n key items).location = n.location := by
  unfold withTexts
  split <;> rfl

@[simp] theorem children_withTexts (n : AstNode) (key : String) (items : List String) :
    (withTexts n key items).children = n.children := by
  unfold withTexts
  split <;> rfl

@[simp] theorem location_heritage (n : AstNode) (t : Tree) : (heritage src n t).location = n.location := by
  unfold heritage
  split <;> simp

theorem liesIn_function (h : ∀ t, (collect t).LiesIn src.path) (place : Place) (node func : Tree) (name : String)
    (exported : Bool) : (function src collect place node func name exported).LiesIn src.path := by
  simp only [function, liesIn_below, location_withTexts]
  refine ⟨?_, liesIn_getD_map h _⟩
  -- marks of methods and arrows are set one after the other; none of them moves the node
  repeat' split
  all_goals rfl

theorem liesIn_classType (h : ∀ t, (collect t).LiesIn src.path) (place : Place) (t : Tree) (exported : Bool) :
    (classType src collect place t exported).LiesIn src.path := by
  simp only [classType, liesIn_below, location_withTexts, location_heritage, OutlineSource.file_location_node,
    true_and]
  exact liesIn_ofChild h t .body

theorem liesIn_interfaceType (t : Tree) (exported : Bool) : (interfaceType src t exported).LiesIn src.path := by
  simp [interfaceType]

theorem liesIn_typeLike (t : Tree) (exported : Bool) : (typeLike src t exported).LiesIn src.path := by
  simp only [typeLike, liesIn_ofNode]
  split <;> simp

theorem liesIn_declaration (h : ∀ t, (collect t).LiesIn src.path) (place : Place) (t : Tree) (exported : Bool) :
    (declaration src collect place t exported).LiesIn src.path := by
  refine liesIn_concat_map (fun d => ?_) _
  simp only
  split
  · split
    · exact liesIn_function src h _ _ _ _ _
    · split <;> simp [h]
  · split <;> simp

theorem liesIn_field (h : ∀ t, (collect t).LiesIn src.path) (t : Tree) : (field src collect t).LiesIn src.path := by
  unfold field
  split
  · split
    · intro n hn
      obtain ⟨m, hm, rfl⟩ := List.mem_map.mp hn
      rw [AstNode.liesIn_setMeta, AstNode.liesIn_setMeta]
      exact liesIn_function src h _ _ _ _ _ m hm
    · exact h _
  · exact liesIn_mk_nil _ _ _

theorem liesIn_importDecl (t : Tree) : (importDecl src t).LiesIn src.path := by
  unfold importDecl
  split
  · exact liesIn_mk_nil _ _ _
  · simp only [liesIn_mk_singleton]
    split <;> simp

theorem liesIn_exportedNames (t : Tree) : (exportedNames src t).LiesIn src.path := by
  unfold exportedNames
  simp only
  split <;> simp

theorem liesIn_exportDecl (h : ∀ t, (collect t).LiesIn src.path) (place : Place) (t : Tree) :
    (exportDecl src collect place t).LiesIn src.path := by
  unfold exportDecl
  simp only
  split
  · intro n hn
    dsimp only at hn
    split at hn
    · exact liesIn_function src h _ _ _ _ _ n hn
    · exact liesIn_classType src h _ _ _ n hn
    · exact liesIn_classType src h _ _ _ n hn
    · exact liesIn_classType src h _ _ _ n hn
    · exact liesIn_interfaceType src _ _ n hn
    · exact liesIn_typeLike src _ _ n hn
    · exact liesIn_typeLike src _ _ n hn
    · exact liesIn_declaration src h _ _ _ n hn
    · exact h _ n hn
  · split
    · split
      · simp [liesIn_function src h]
      · simp [h]
    · exact liesIn_exportedNames src t

theorem liesIn_call (h : ∀ t, (collect t).LiesIn src.path) (t : Tree) : (call src collect t).LiesIn src.path := by
  unfold call
  split
  · exact liesIn_mk_nil _ _ _
  · have hloaded : ∀ (isDynamic : Bool) (literal : Option String),
        ((literal.map fun source : String =>
          ({ imports := [{ ImportInfo.new source (src.line t) with isDynamic := isDynamic }] } : Outline)).getD
            {}).LiesIn src.path := by
      intro isDynamic literal
      cases literal <;> exact liesIn_mk_nil _ _ _
    simp only
    split
    · exact hloaded true _
    · split
      · exact hloaded false _
      · refine liesIn_append.mpr ⟨liesIn_append.mpr ⟨h _, ?_⟩, liesIn_ofChild h t .arguments⟩
        split <;> simp

theorem liesIn_walk (fuel : Nat) (place : Place) (t : Tree) : (walk src fuel place t).LiesIn src.path := by
  induction fuel generalizing place t with
  | zero => exact liesIn_mk_nil _ _ _
  | succ fuel ih =>
    unfold walk
    simp only
    split
    case h_3 | h_4 | h_5 => exact liesIn_classType src (ih {}) place t false
    case h_6 => exact liesIn_interfaceType src t false
    case h_7 | h_8 => exact liesIn_typeLike src t false
    case h_9 => exact liesIn_declaration src (ih {}) place t false
    case h_10 => exact liesIn_field src (ih {}) t
    case h_11 => exact liesIn_importDecl src t
    case h_12 => exact liesIn_exportDecl src (ih {}) place t
    case h_13 => exact liesIn_call src (ih {}) t
    case h_14 => exact liesIn_concat_map (fun x : Place × Tree => ih x.1 x.2) _
    all_goals exact liesIn_function src (ih {}) place t t _ false

theorem liesIn_ofModule (t : Tree) : (ofModule src t).LiesIn src.path :=
  liesIn_concat_map (fun x : Place × Tree => liesIn_walk src _ x.1 x.2) _

end Outline.Script

namespace AstFile

/-- All nodes of the tree lie in its file. -/
def Located (t : AstFile) : Prop := ∀ n ∈ t.nodes, n.location.file = t.path

theorem located_failed (path : String) (l : Language) (hash error : String) : (failed path l hash error).Located := by
  have hroot : ({ kind := .moduleScope, location := ⟨path, 1, 1, 1, 1⟩ } : AstNode).LiesIn path :=
    AstNode.liesIn_iff.mpr ⟨rfl, by simp⟩
  exact hroot.assignIds none []

theorem located_ofTree {path : String} {root : AstNode} (h : root.LiesIn path) (l : Language)
    (imports : List ImportInfo) (exports : List ExportInfo) (hash : String) (fidelity : Fidelity) :
    (ofTree path l root imports exports hash fidelity).Located :=
  h.assignIds none []

theorem liesIn_outline (grammar : GrammarName) (src : OutlineSource) (t : Tree) :
    (Outline.ofTree grammar src t).LiesIn src.path := by
  cases grammar with
  | typescript | tsx | javascript => exact Outline.Script.liesIn_ofModule src t
  | python => exact Outline.Python.liesIn_ofModule src t
  | java => exact Outline.Java.liesIn_ofModule src t
  | go => exact Outline.Go.liesIn_ofModule src t

theorem located_ofContent (parser : SyntaxParser) (path content : String) (l : Language) :
    (ofContent parser path content l).Located := by
  unfold ofContent
  cases l.grammar? path with
  | none => exact located_failed path l _ _
  | some grammar =>
    simp only
    cases parser grammar (.ofText content) with
    | error fault => exact located_failed path l _ _
    | ok reading =>
      refine located_ofTree ?_ l _ _ _ .full
      exact OutlineSource.liesIn_root ⟨Source.ofText content, path⟩ (liesIn_outline grammar _ _) _ _

theorem located_ofFile (parser : SyntaxParser) (f : SourceFile) (l : Language) : (ofFile parser f l).Located := by
  unfold ofFile
  split
  · exact located_ofContent parser _ _ l
  · exact located_failed f.path l _ _

end AstFile

end CodeAudit
