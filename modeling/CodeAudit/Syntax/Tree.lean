import CodeAudit.Location

/-!
Concrete syntax: ordered trees over a text whose leaves are its tokens. A node says what construct it
is, which part of its parent it plays, and which characters it covers. Comments are nodes too: each
one hangs in the lowest node that has tokens on both sides of it.
-/
namespace CodeAudit.Syntax

/-- The constructs that later stages tell apart; all others are `other`. -/
inductive Tag where
  /-- A keyword or a piece of punctuation, by its spelling. -/
  | token (spelling : String)
  | comment
  | other
  | identifier
  | string
  | template
  | decorator
  | functionDecl
  | functionExpr
  | arrow
  | method
  | constructorDecl
  | lambda
  | classDecl
  | abstractClass
  | classExpr
  | record
  | interfaceDecl
  | annotationType
  | enumDecl
  | typeAlias
  | typeSpec
  | typeGroup
  | structType
  | interfaceType
  | embeddedType
  | fieldGroup
  | declaration
  | constDeclaration
  | declarator
  | field
  | block
  | statements
  | classBody
  | heritage
  | baseClause
  | interfaceClause
  | typeList
  | modifiers
  | marker
  | visibility
  | parameter
  | restParameter
  | defaultParameter
  | importDecl
  | importFrom
  | importAll
  | importClause
  | namespaceImport
  | namedImports
  | importSpecifier
  | importSpec
  | importGroup
  | exportDecl
  | exportClause
  | exportSpecifier
  | importKeyword
  | call
  | member
  | creation
  | await
  | spawn
  | packageDecl
  | packageName
  | decorated
  | expressionStatement
  | assignment
  | aliased
  | pass
  | ellipsis
  | keywordArgument
deriving DecidableEq, Repr, Inhabited

/-- Tokens are not named; every other node is. -/
def Tag.isNamed : Tag → Bool
  | token _ => false
  | _ => true

/-- The part a node plays in its parent. -/
inductive Role where
  | name
  | alias
  | source
  | value
  | body
  | parameters
  | parameter
  | pattern
  | left
  | right
  | declaration
  | definition
  | callee
  | arguments
  | object
  | property
  | superclass
  | interfaces
  | type
  | receiver
  | path
deriving DecidableEq, Repr, Inhabited

/-- The characters from `start` up to, not including, `stop`. -/
structure Span where
  start : Nat
  stop : Nat
deriving DecidableEq, Repr, Inhabited

inductive Tree where
  | node (tag : Tag) (role : Option Role) (span : Span) (children : List Tree)
deriving Inhabited

namespace Tree

def tag : Tree → Tag
  | node tag _ _ _ => tag

def role : Tree → Option Role
  | node _ role _ _ => role

def span : Tree → Span
  | node _ _ span _ => span

def children : Tree → List Tree
  | node _ _ _ children => children

def isNamed (t : Tree) : Bool := t.tag.isNamed

def leaf (tag : Tag) (span : Span) : Tree := node tag none span []

def withRole (r : Role) : Tree → Tree
  | node tag _ span children => node tag (some r) span children

/-- A node that covers its children; without any it is empty and stands at `pos`. -/
def cover (tag : Tag) (pos : Nat) (children : List Tree) : Tree :=
  let start := (children.head?.map fun t => t.span.start).getD pos
  let stop := (children.getLast?.map fun t => t.span.stop).getD pos
  node tag none ⟨start, stop⟩ children

def child? (t : Tree) (r : Role) : Option Tree := t.children.find? fun c => c.role == some r

def childrenIn (t : Tree) (r : Role) : List Tree := t.children.filter fun c => c.role == some r

def childOf? (t : Tree) (tag : Tag) : Option Tree := t.children.find? fun c => c.tag == tag

def childrenOf (t : Tree) (tag : Tag) : List Tree := t.children.filter fun c => c.tag == tag

def named (t : Tree) : List Tree := t.children.filter isNamed

def hasWord (t : Tree) (spelling : String) : Bool := (t.childOf? (.token spelling)).isSome

mutual

def height : Tree → Nat
  | node _ _ _ children => heightOf children + 1

def heightOf : List Tree → Nat
  | [] => 0
  | t :: rest => max (height t) (heightOf rest)

end

mutual

/-- Whether a node of the kind lies below; nodes that `closed` holds of are not entered. -/
def contains (wanted closed : Tag → Bool) : Tree → Bool
  | node _ _ _ children => containsIn wanted closed children

def containsIn (wanted closed : Tag → Bool) : List Tree → Bool
  | [] => false
  | node tag role span children :: rest =>
    wanted tag || (!closed tag && contains wanted closed (node tag role span children))
      || containsIn wanted closed rest

end

mutual

/-- Hangs the comments found between neighbouring children below their common parent. -/
def attach (comments : Nat → Nat → List Span) : Tree → Tree
  | node tag role span children => node tag role span (attachBetween comments none children)

def attachBetween (comments : Nat → Nat → List Span) (from? : Option Nat) : List Tree → List Tree
  | [] => []
  | t :: rest =>
    let before := match from? with
      | none => []
      | some pos => (comments pos t.span.start).map (leaf .comment)
    before ++ attach comments t :: attachBetween comments (some t.span.stop) rest

end

end Tree

/-- A text by characters, with the place of each as line and byte column, both from one. -/
structure Source where
  chars : Array Char
  places : Array (Nat × Nat)
deriving Inhabited

namespace Source

def ofText (text : String) : Source :=
  let chars := text.toList
  let places := chars.foldl
    (fun (acc : Array (Nat × Nat) × Nat × Nat) c =>
      let (places, line, column) := acc
      let next := if c = '\n' then (line + 1, 1) else (line, column + c.utf8Size)
      (places.push next, next))
    (#[(1, 1)], 1, 1)
  ⟨chars.toArray, places.1⟩

def size (s : Source) : Nat := s.chars.size

def get? (s : Source) (i : Nat) : Option Char := s.chars[i]?

/-- Where reading begins: behind a byte order mark, if there is one. -/
def start (s : Source) : Nat := if s.get? 0 == some '\uFEFF' then 1 else 0

def place (s : Source) (i : Nat) : Nat × Nat := s.places.getD i (1, 1)

def text (s : Source) (span : Span) : String :=
  String.ofList (s.chars.extract span.start span.stop).toList

def line (s : Source) (t : Tree) : Nat := (s.place t.span.start).1

def location (s : Source) (path : String) (span : Span) : Location :=
  let start := s.place span.start
  let stop := s.place span.stop
  ⟨path, start.1, start.2, stop.1, stop.2⟩

end Source
end CodeAudit.Syntax
