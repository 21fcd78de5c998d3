import CodeAudit.Ast.File
import CodeAudit.Json.Fields

/-!
Syntax trees as JSON. A node that is read has a kind, and may have a name, four numbers for its
place, facts and children, each under a one-letter key. What is written tells the ids instead.
-/
namespace CodeAudit

/-- An integer of 64 bits stays one; every other number is read as a floating-point number. -/
def MetaValue.ofInt (n : Int) : MetaValue :=
  if -0x8000000000000000 ≤ n ∧ n < 0x8000000000000000 then .int n else .float (Float.ofInt n)

mutual

def MetaValue.ofJson? : Json → Option MetaValue
  | .null => none
  | .bool b => some (.flag b)
  | .int n => some (.ofInt n)
  | .float x => some (.float x)
  | .str s => some (.text s)
  | .arr items => (items.mapM Json.asStr).map .texts
  | .obj fields => (Metadata.ofFields? fields).map .table

/-- Facts under their names. -/
def Metadata.ofFields? : List (String × Json) → Option Metadata
  | [] => some []
  | (k, v) :: rest => do return (k, ← MetaValue.ofJson? v) :: (← Metadata.ofFields? rest)

end

mutual

def MetaValue.toJson : MetaValue → Json
  | .flag b => .bool b
  | .int n => .int n
  | .float x => .float x
  | .text s => .str s
  | .texts items => .strings items
  | .table fields => .obj (Metadata.toFields fields)

def Metadata.toFields : List (String × MetaValue) → List (String × Json)
  | [] => []
  | (k, v) :: rest => (k, v.toJson) :: Metadata.toFields rest

end

/-- First line and column, last line and column. -/
def Location.ofJson? (file : String) (j : Json) : Option Location :=
  match j.listOf Json.asNat32 with
  | some [a, b, c, d] => some ⟨file, a, b, c, d⟩
  | _ => none

/-- The very beginning of a file. -/
def Location.start (file : String) : Location := ⟨file, 1, 1, 1, 1⟩

namespace AstNode

/-- A node without its children. -/
def bareOfJson? (file : String) (j : Json) : Option AstNode := do
  return { kind := ← j.req "t" (Json.asNamed NodeKind.ofName?)
           name := ← j.opt "n" Json.asStr
           location := ← j.orElse "l" (.start file) (Location.ofJson? file)
           metadata := ← j.orElse "m" [] fun m => m.asObj.bind Metadata.ofFields? }

mutual

def ofJson? (file : String) : Json → Option AstNode
  | .obj fields => do
    let node ← bareOfJson? file (.obj fields)
    return { node with children := ← childrenOfFields? file fields }
  | _ => none

/-- The nodes under the key of the children. -/
def childrenOfFields? (file : String) : List (String × Json) → Option (List AstNode)
  | [] => some []
  | (k, v) :: rest => if k = "c" then childrenOfJson? file v else childrenOfFields? file rest

def childrenOfJson? (file : String) : Json → Option (List AstNode)
  | .null => some []
  | .arr items => listOfJson? file items
  | _ => none

def listOfJson? (file : String) : List Json → Option (List AstNode)
  | [] => some []
  | j :: rest => do return (← ofJson? file j) :: (← listOfJson? file rest)

end

mutual

def toJson : AstNode → Json
  | ⟨id, _, name, _, children, _, metadata⟩ => .obj
    [("children", .arr (listToJson children)), ("id", .str id), ("meta", .obj (Metadata.toFields metadata)),
     ("name", .ofOption .str name)]

def listToJson : List AstNode → List Json
  | [] => []
  | n :: rest => n.toJson :: listToJson rest

end

end AstNode

namespace ImportInfo

def ofJson? (j : Json) : Option ImportInfo := do
  let i := new (← j.req "source" Json.asStr) (← j.orElse "line" 1 Json.asNat32)
  return { i with specifiers := ← j.orElse "specifiers" [] Json.asStrs
                  isDynamic := ← j.orElse "dynamic" false Json.asBool }

def toJson (i : ImportInfo) : Json :=
  .object [("source", .str i.source), ("specifiers", .strings i.specifiers),
    ("is_relative", .bool i.isRelative), ("is_dynamic", .bool i.isDynamic), ("line", .nat i.line)]

end ImportInfo

namespace ExportInfo

def ofJson? (j : Json) : Option ExportInfo := do
  return { name := ← j.req "name" Json.asStr, kind := ← j.orElse "kind" "function" Json.asStr
           isDefault := ← j.orElse "default" false Json.asBool, line := ← j.orElse "line" 1 Json.asNat32 }

def toJson (e : ExportInfo) : Json :=
  .object [("name", .str e.name), ("kind", .str e.kind), ("is_default", .bool e.isDefault),
    ("line", .nat e.line)]

end ExportInfo
end CodeAudit
