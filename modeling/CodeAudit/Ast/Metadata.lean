import CodeAudit.Text.Basic
import CodeAudit.Decimal

/-!
Typed facts attached to the nodes of a tree, kept in the order of their keys. A dotted path walks
through nested tables.
-/
namespace CodeAudit

inductive MetaValue where
  | flag (b : Bool)
  | int (n : Int)
  | float (x : Float)
  | text (s : String)
  | texts (items : List String)
  | table (fields : List (String × MetaValue))
deriving Inhabited

abbrev Metadata := List (String × MetaValue)

namespace Metadata

/-- Adds a fact in key order; a key that is already there gets the new value. -/
def insert (k : String) (v : MetaValue) : Metadata → Metadata
  | [] => [(k, v)]
  | (k', v') :: rest =>
    if k < k' then (k, v) :: (k', v') :: rest
    else if k = k' then (k, v) :: rest
    else (k', v') :: insert k v rest

def get? (m : Metadata) (k : String) : Option MetaValue := m.lookup k

def ofList (fields : List (String × MetaValue)) : Metadata :=
  fields.foldl (fun m (k, v) => insert k v m) []

/-- The value under a list of keys, each but the first looked up in the table before it. -/
def walk? (m : Metadata) : List String → Option MetaValue
  | [] => none
  | [k] => m.get? k
  | k :: rest =>
    match m.get? k with
    | some (.table fields) => walk? fields rest
    | _ => none

/-- The value under a dotted path. -/
def path? (m : Metadata) (path : String) : Option MetaValue := walk? m (Text.splitOn path '.')

end Metadata

namespace MetaValue

def asBool? : MetaValue → Option Bool
  | flag b => some b
  | _ => none

/-- The nearest 64-bit integer towards zero. -/
def truncated (x : Float) : Int := x.toInt64.toInt

def asInt? : MetaValue → Option Int
  | int n => some n
  | float x => some (truncated x)
  | _ => none

def asFloat? : MetaValue → Option Float
  | int n => some (Float.ofInt n)
  | float x => some x
  | _ => none

def asText? : MetaValue → Option String
  | text s => some s
  | _ => none

def asTexts? : MetaValue → Option (List String)
  | texts items => some items
  | _ => none

end MetaValue
end CodeAudit
