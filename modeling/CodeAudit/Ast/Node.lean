import CodeAudit.Ast.Metadata
import CodeAudit.Location

/-!
Trees of the constructs that all languages share. Nodes are listed parent before children; ids are
made of kind and position, and a repeated position is told apart by a counter.
-/
namespace CodeAudit

inductive NodeKind where
  | moduleScope
  | function
  | classType
  | interfaceType
  | typeAlias
  | enumType
  | binding
  | importDecl
  | exportDecl
  | call
  | block
  | other
deriving DecidableEq, Repr, Inhabited

namespace NodeKind

def all : List NodeKind :=
  [moduleScope, function, classType, interfaceType, typeAlias, enumType, binding, importDecl,
   exportDecl, call, block, other]

def name : NodeKind → String
  | moduleScope => "module"
  | function => "function"
  | classType => "class"
  | interfaceType => "interface"
  | typeAlias => "type"
  | enumType => "enum"
  | binding => "variable"
  | importDecl => "import"
  | exportDecl => "export"
  | call => "call"
  | block => "block"
  | other => "other"

def ofName? (s : String) : Option NodeKind := all.find? fun k => k.name == s

/-- Also reads `method` and `struct`. -/
def parse? (s : String) : Option NodeKind :=
  (ofName? s).or ([("method", function), ("struct", classType)].lookup s)

theorem ofName?_name (k : NodeKind) : ofName? k.name = some k := by cases k <;> rfl

end NodeKind

structure AstNode where
  id : String := ""
  kind : NodeKind
  name : Option String := none
  location : Location
  children : List AstNode := []
  parent : Option String := none
  metadata : Metadata := []
deriving Inhabited

namespace AstNode

def setMeta (n : AstNode) (k : String) (v : MetaValue) : AstNode :=
  { n with metadata := n.metadata.insert k v }

mutual

/-- The node and all below it, parents first. -/
def nodes (n : AstNode) : List AstNode :=
  match n with
  | ⟨id, kind, name, location, children, parent, metadata⟩ =>
    ⟨id, kind, name, location, children, parent, metadata⟩ :: nodesOf children

def nodesOf : List AstNode → List AstNode
  | [] => []
  | n :: rest => nodes n ++ nodesOf rest

end

def findAll (n : AstNode) (kind : NodeKind) : List AstNode := n.nodes.filter fun m => m.kind == kind

def count (n : AstNode) : Nat := n.nodes.length

def meta? (n : AstNode) (k : String) : Option MetaValue := n.metadata.get? k

def flag (n : AstNode) (k : String) : Bool := ((n.meta? k).bind MetaValue.asBool?).getD false

def text? (n : AstNode) (k : String) : Option String := (n.meta? k).bind MetaValue.asText?

/-- A list of texts; a single text stands for a list of one. -/
def textsOrText (n : AstNode) (k : String) : List String :=
  match n.meta? k with
  | some (.texts items) => items
  | some (.text s) => [s]
  | _ => []

def isAsync (n : AstNode) : Bool := n.flag "async"
def isExported (n : AstNode) : Bool := n.flag "exported"
def isStatic (n : AstNode) : Bool := n.flag "static"
def isMethod (n : AstNode) : Bool := n.flag "isMethod"
def visibility? (n : AstNode) : Option String := n.text? "visibility"
def className? (n : AstNode) : Option String := n.text? "className"
def receiver? (n : AstNode) : Option String := n.text? "receiver"
def parameters (n : AstNode) : List String := ((n.meta? "parameters").bind MetaValue.asTexts?).getD []
def bases (n : AstNode) : List String := n.textsOrText "extends"
def interfaces (n : AstNode) : List String := n.textsOrText "implements"
def callee? (n : AstNode) : Option String := n.text? "callee"
def caller? (n : AstNode) : Option String := n.text? "caller"

/-- The recorded number of parameters, never negative, else the length of their list. -/
def parameterCount (n : AstNode) : Nat :=
  match (n.meta? "paramCount").bind MetaValue.asInt? with
  | some k => k.toNat
  | none => n.parameters.length

def lineCount (n : AstNode) : Nat := n.location.lineCount

/-- Kind and position. -/
def positionId (kind : NodeKind) (l : Location) : String :=
  s!"{kind.name}@{l.startLine}:{l.startColumn}-{l.endLine}:{l.endColumn}"

end AstNode

/-- How often each position has been used. -/
abbrev IdCounts := List (String × Nat)

namespace IdCounts

def bump (counts : IdCounts) (base : String) : IdCounts :=
  match counts with
  | [] => [(base, 1)]
  | (b, n) :: rest => if b = base then (b, n + 1) :: rest else (b, n) :: bump rest base

/-- A fresh id: the position itself the first time, then with `#1`, `#2`, … -/
def allocate (counts : IdCounts) (base : String) : String × IdCounts :=
  match counts.lookup base with
  | none => (base, counts.bump base)
  | some n => (s!"{base}#{n}", counts.bump base)

end IdCounts

namespace AstNode

mutual

/-- Gives ids and parent links in the order of `nodes`. -/
def assignIds (parent : Option String) (counts : IdCounts) (n : AstNode) : AstNode × IdCounts :=
  match n with
  | ⟨_, kind, name, location, children, _, metadata⟩ =>
    let (id, counts) := counts.allocate (positionId kind location)
    let (children, counts) := assignIdsOf (some id) counts children
    (⟨id, kind, name, location, children, parent, metadata⟩, counts)

def assignIdsOf (parent : Option String) (counts : IdCounts) :
    List AstNode → List AstNode × IdCounts
  | [] => ([], counts)
  | n :: rest =>
    let (n, counts) := assignIds parent counts n
    let (rest, counts) := assignIdsOf parent counts rest
    (n :: rest, counts)

end

end AstNode
end CodeAudit
