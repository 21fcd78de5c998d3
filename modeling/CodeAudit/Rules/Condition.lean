import CodeAudit.Ast.File
import CodeAudit.Regex.Search

/-!
Conditions on the nodes of a tree: a field of the node compared with an operand. A missing field
satisfies exactly the negative comparisons.
-/
namespace CodeAudit

/-- What a field of a node can hold. -/
inductive FieldValue where
  | bool (b : Bool)
  | number (x : Float)
  | text (s : String)
  | list (items : List String)
deriving Inhabited

namespace FieldValue

/-- A number, or a text that reads as one. -/
def asFloat? : FieldValue → Option Float
  | number x => some x
  | text s => Decimal.float? (Text.trim s)
  | _ => none

def render : FieldValue → String
  | bool b => if b then "true" else "false"
  | number x => Decimal.shortest x
  | text s => s
  | list items => Text.join ", " items

/-- Two numbers are the same if they are closer than the distance from one to the next number. -/
def epsilon : Float := 2.220446049250313e-16

def near (x y : Float) : Bool := (x - y).abs < epsilon

/-- Equality by value; a number and a text are compared as numbers. -/
def looselyEquals (a b : FieldValue) : Bool :=
  match a, b with
  | bool x, bool y => x == y
  | number x, number y => near x y
  | number x, text s | text s, number x =>
    match asFloat? (text s) with
    | some y => near x y
    | none => false
  | text s, text t => s == t
  | list xs, list ys => xs == ys
  | _, _ => false

/-- Tables cannot be held by a field. -/
def ofMeta? : MetaValue → Option FieldValue
  | .flag b => some (bool b)
  | .int n => some (number (Float.ofInt n))
  | .float x => some (number x)
  | .text s => some (text s)
  | .texts items => some (list items)
  | .table _ => none

/-- The number of items of a list or of characters of a text. -/
def length? : FieldValue → Option FieldValue
  | list items => some (number (Float.ofNat items.length))
  | text s => some (number (Float.ofNat s.length))
  | _ => none

end FieldValue

namespace AstNode

/-- A field by its plain name: one of the node's own, or a fact attached to it. -/
def plainField? (n : AstNode) (field : String) : Option FieldValue :=
  let count (k : Nat) : Option FieldValue := some (.number (Float.ofNat k))
  match field with
  | "type" => some (.text n.kind.name)
  | "name" => n.name.map .text
  | "id" => some (.text n.id)
  | "parent" => n.parent.map .text
  | "lineCount" => count n.lineCount
  | "paramCount" => count n.parameterCount
  | "childCount" => count n.children.length
  | "location.filePath" => some (.text n.location.file)
  | "location.startLine" => count n.location.startLine
  | "location.endLine" => count n.location.endLine
  | "location.startColumn" => count n.location.startColumn
  | "location.endColumn" => count n.location.endColumn
  | _ =>
    (match Text.afterHead? field "metadata." with
      | some path => n.metadata.path? path
      | none => n.meta? field).bind FieldValue.ofMeta?

def lengthMark : String := ".length"

/-- A field, or the length of one; a length has itself no length. -/
def field? (n : AstNode) (field : String) : Option FieldValue :=
  match Text.beforeTail? field lengthMark with
  | none => n.plainField? field
  | some base =>
    if Text.endsWith base lengthMark then none else (n.plainField? base).bind FieldValue.length?

end AstNode

/-- How a field is compared. -/
inductive Operator where
  | equals (v : FieldValue)
  | notEquals (v : FieldValue)
  | contains (part : String)
  | matches (pattern : Regex)
  | startsWith (head : String)
  | endsWith (tail : String)
  | greater (bound : Float)
  | greaterOrEqual (bound : Float)
  | less (bound : Float)
  | lessOrEqual (bound : Float)
  | oneOf (options : List FieldValue)
  | noneOf (options : List FieldValue)
  | exists
  | notExists

namespace Operator

/-- The operators that hold of a missing field. -/
def isNegative : Operator → Bool
  | notEquals _ | noneOf _ | notExists => true
  | _ => false

def compares (test : Float → Bool) (v : FieldValue) : Bool := v.asFloat?.any test

def onText (test : String → Bool) : FieldValue → Bool
  | .text s => test s
  | _ => false

def holdsOf (op : Operator) (v : FieldValue) : Bool :=
  match op with
  | «exists» => true
  | notExists => false
  | equals w => v.looselyEquals w
  | notEquals w => !v.looselyEquals w
  | contains part =>
    match v with
    | .text s => Text.contains s part
    | .list items => items.contains part
    | _ => false
  | «matches» pattern =>
    match v with
    | .list items => items.any pattern.isMatch
    | _ => pattern.isMatch v.render
  | startsWith head => onText (fun s => Text.startsWith s head) v
  | endsWith tail => onText (fun s => Text.endsWith s tail) v
  | greater bound => compares (fun x => x > bound) v
  | greaterOrEqual bound => compares (fun x => x ≥ bound) v
  | less bound => compares (fun x => x < bound) v
  | lessOrEqual bound => compares (fun x => x ≤ bound) v
  | oneOf options => options.any v.looselyEquals
  | noneOf options => !options.any v.looselyEquals

def holds (op : Operator) : Option FieldValue → Bool
  | none => op.isNegative
  | some v => op.holdsOf v

end Operator

structure Condition where
  field : String
  operator : Operator

def Condition.holds (c : Condition) (n : AstNode) : Bool := c.operator.holds (n.field? c.field)

end CodeAudit
