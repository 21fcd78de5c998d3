import CodeAudit.Ast.Node

/-!
Membership: functions right below a class are its methods, and every call is stamped with the function
around it, or with the module if there is none.
-/
namespace CodeAudit.AstNode

/-- The caller of a call outside of all functions. -/
def moduleCaller : String := "<module>"

/-- The class and the function that hold the children of a node. -/
def scopeBelow (n : AstNode) (owner function : Option String) : Option String × Option String :=
  match n.kind with
  | .classType | .interfaceType | .enumType => (n.name, none)
  | .function => (none, n.name)
  | _ => (owner, function)

/-- What a node learns from the class and the function around it. -/
def stamp (owner function : Option String) (n : AstNode) : AstNode :=
  match n.kind, owner with
  | .function, some owner =>
    let n := n.setMeta "isMethod" (.flag true)
    if n.className?.isNone then n.setMeta "className" (.text owner) else n
  | .call, _ => n.setMeta "caller" (.text (function.getD moduleCaller))
  | _, _ => n

mutual

/-- Stamps everything below a node. -/
def annotateMembers (owner function : Option String) (n : AstNode) : AstNode :=
  match n with
  | ⟨id, kind, name, location, children, parent, metadata⟩ =>
    let scope := scopeBelow ⟨id, kind, name, location, [], parent, metadata⟩ owner function
    ⟨id, kind, name, location, annotateAll scope.1 scope.2 children, parent, metadata⟩

def annotateAll (owner function : Option String) : List AstNode → List AstNode
  | [] => []
  | n :: rest => stamp owner function (annotateMembers owner function n) :: annotateAll owner function rest

end

end CodeAudit.AstNode
