import CodeAudit.Count
import CodeAudit.Json

/-!
Typed values out of JSON. A reader gives none for a value of another type; a member that is missing
or null counts as absent, which only a required one may not be.
-/
namespace CodeAudit.Json

def asStr : Json → Option String
  | .str s => some s
  | _ => none

def asBool : Json → Option Bool
  | .bool b => some b
  | _ => none

/-- A natural number below a bound. -/
def asNat (bound : Nat) : Json → Option Nat
  | .int n => if 0 ≤ n ∧ n.toNat < bound then some n.toNat else none
  | _ => none

def asNat32 : Json → Option Nat := asNat bound32

def asNat64 : Json → Option Nat := asNat bound64

def asFloat : Json → Option Float
  | .int n => some (Float.ofInt n)
  | .float x => some x
  | _ => none

def asArr : Json → Option (List Json)
  | .arr items => some items
  | _ => none

def asObj : Json → Option (List (String × Json))
  | .obj fields => some fields
  | _ => none

def listOf {α : Type} (read : Json → Option α) (j : Json) : Option (List α) := do (← j.asArr).mapM read

def asStrs : Json → Option (List String) := listOf asStr

/-- One of the values of a type that have names. -/
def asNamed {α : Type} (ofName? : String → Option α) (j : Json) : Option α := j.asStr.bind ofName?

/-- A member that may be absent. -/
def opt {α : Type} (j : Json) (k : String) (read : Json → Option α) : Option (Option α) :=
  match j.get? k with
  | none | some .null => some none
  | some v => (read v).map some

/-- A member that has to be there. -/
def req {α : Type} (j : Json) (k : String) (read : Json → Option α) : Option α := (j.opt k read).join

/-- A member, or a default where it is absent. -/
def orElse {α : Type} (j : Json) (k : String) (default : α) (read : Json → Option α) : Option α :=
  (j.opt k read).map fun v => v.getD default

end CodeAudit.Json
