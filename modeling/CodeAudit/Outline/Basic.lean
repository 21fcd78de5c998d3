import CodeAudit.Ast.File
import CodeAudit.Ast.Members
import CodeAudit.Path
import CodeAudit.Digest
import CodeAudit.Syntax.Scan

/-!
Outlines: what a concrete tree contributes to the tree all languages share. Constructs without a
counterpart are transparent, so what lies below them moves up.
-/
namespace CodeAudit

open Syntax

structure Outline where
  nodes : List AstNode := []
  imports : List ImportInfo := []
  exports : List ExportInfo := []
  package : Option String := none

namespace Outline

def append (a b : Outline) : Outline where
  nodes := a.nodes ++ b.nodes
  imports := a.imports ++ b.imports
  exports := a.exports ++ b.exports
  package := b.package.or a.package

instance : Append Outline := ⟨append⟩

def ofNode (n : AstNode) : Outline := { nodes := [n] }

/-- The parts in order. -/
def concat (parts : List Outline) : Outline := parts.foldl append {}

/-- The node with all nodes of an outline below it; imports and exports pass through. -/
def below (n : AstNode) (o : Outline) : Outline :=
  { o with nodes := [{ n with children := o.nodes }] }

/-- What `collect` finds in the child that plays the given part. -/
def ofChild (collect : Tree → Outline) (t : Tree) (r : Role) : Outline :=
  match t.child? r with
  | some c => collect c
  | none => {}

end Outline

/-- A text being outlined, and the path of its file. -/
structure OutlineSource where
  source : Source
  path : String

namespace OutlineSource

variable (src : OutlineSource)

def text (t : Tree) : String := src.source.text t.span

def line (t : Tree) : Nat := src.source.line t

def location (t : Tree) : Location := src.source.location src.path t.span

def anonymous : String := "<anonymous>"

def nameOf (t : Tree) : String := ((t.child? .name).map src.text).getD anonymous

/-- A node of the given kind at the place of a tree. -/
def node (kind : NodeKind) (name : String) (at_ : Tree) (facts : List (String × MetaValue)) : AstNode :=
  { kind := kind, name := some name, location := src.location at_, metadata := Metadata.ofList facts }

/-- A text without its blanks. -/
def squeezed (t : String) : String := String.join (Text.words t)

def call (callee calleeText : String) (at_ : Tree) : AstNode :=
  src.node .call callee at_ [("callee", .text callee), ("calleeText", .text (squeezed calleeText))]

def importNode (source : String) (specifiers : List String) (at_ : Tree) : AstNode :=
  src.node .importDecl source at_ [("source", .text source), ("specifiers", .texts specifiers)]

/-- The root: it lies where the program does, and has the name of the file without directories and
extension. -/
def root (span : Span) (hasErrors : Bool) (o : Outline) : AstNode :=
  let name := (Path.stem? src.path).getD src.path
  let facts := (if hasErrors then [("syntaxErrors", MetaValue.flag true)] else [])
    ++ (o.package.map fun p => ("package", MetaValue.text p)).toList
  let top : AstNode :=
    { kind := .moduleScope
      name := some name
      location := src.source.location src.path span
      metadata := Metadata.ofList facts
      children := o.nodes }
  top.annotateMembers none none

end OutlineSource

/-- A literal's text without its quotes. -/
def unquote (t : String) : String :=
  Text.trimMatches (Text.trim t) fun c => c == '"' || c == '\'' || c == '\x60'

/-- A type's name in front of its arguments. -/
def stripTypeArguments (t : String) : String :=
  Text.trim (String.ofList (t.toList.takeWhile fun c => c != '<' && c != '['))

/-- The named children that are not comments. -/
def codeChildren (t : Tree) : List Tree := t.named.filter fun c => c.tag != .comment

end CodeAudit
