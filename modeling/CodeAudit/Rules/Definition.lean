import CodeAudit.Json.Fields
import CodeAudit.Rules.AstRule

/-!
Rules on trees as they are written down in JSON. A comparison names its operator under the key `is`;
a regular expression is kept as text until the rule is built.
-/
namespace CodeAudit

namespace FieldValue

def ofJson? : Json → Option FieldValue
  | .bool b => some (.bool b)
  | .str s => some (.text s)
  | .arr items => (items.mapM Json.asStr).map .list
  | j => j.asFloat.map .number

def toJson : FieldValue → Json
  | bool b => .bool b
  | number x => .float x
  | text s => .str s
  | list items => .strings items

end FieldValue

/-- An operator, or the text of a regular expression that a field has to match. -/
inductive Comparison where
  | operator (op : Operator)
  | pattern (text : String)

namespace Comparison

def ofJson? (j : Json) : Option Comparison := do
  let number := j.req "value" Json.asFloat
  let text := j.req "value" Json.asStr
  let value := j.req "value" FieldValue.ofJson?
  let values := j.req "value" (Json.listOf FieldValue.ofJson?)
  match ← j.req "is" Json.asStr with
  | "eq" => value.map fun v => .operator (.equals v)
  | "ne" => value.map fun v => .operator (.notEquals v)
  | "contains" => text.map fun s => .operator (.contains s)
  | "matches" => text.map .pattern
  | "starts" => text.map fun s => .operator (.startsWith s)
  | "ends" => text.map fun s => .operator (.endsWith s)
  | "gt" => number.map fun x => .operator (.greater x)
  | "ge" => number.map fun x => .operator (.greaterOrEqual x)
  | "lt" => number.map fun x => .operator (.less x)
  | "le" => number.map fun x => .operator (.lessOrEqual x)
  | "in" => values.map fun vs => .operator (.oneOf vs)
  | "not_in" => values.map fun vs => .operator (.noneOf vs)
  | "exists" => some (.operator .exists)
  | "not_exists" => some (.operator .notExists)
  | _ => none

/-- Whether a field compares as asked; a regular expression that cannot be read is the rule's error. -/
def test (c : Comparison) (rule : String) (v : Option FieldValue) : Except RuleError Bool :=
  match c with
  | operator op => .ok (op.holds v)
  | pattern text => (AstRuleDraft.readPattern rule ("", text)).map fun condition => condition.operator.holds v

end Comparison

/-- A fixed text, or `true` for the summary of the match. -/
def ReportText.ofJson? : Json → Option ReportText
  | .str s => some (.fixed s)
  | .bool true => some fun c => .ok c.summary
  | _ => none

/-- Reads a rule; `text` reads its message and its suggestion. -/
def AstRuleDraft.ofJson? (text : Json → Option ReportText) (j : Json) : Option AstRuleDraft := do
  let comparisons ← j.orElse "when" [] (Json.listOf fun c => do
    return (← c.req "field" Json.asStr, ← Comparison.ofJson? c))
  return {
    id := ← j.req "id" Json.asStr
    name := ← j.opt "name" Json.asStr
    description := ← j.orElse "description" "" Json.asStr
    category := ← j.orElse "category" .quality fun c => c.asStr.map .ofName
    severity := ← j.orElse "severity" .medium (Json.asNamed Severity.ofName?)
    nodeKinds := ← j.orElse "node_types" [] (Json.listOf (Json.asNamed NodeKind.ofName?))
    conditions := comparisons.filterMap fun
      | (field, .operator op) => some ⟨field, op⟩
      | _ => none
    patterns := comparisons.filterMap fun
      | (field, .pattern p) => some (field, p)
      | _ => none
    languages := ← j.orElse "languages" [] (Json.listOf (Json.asNamed Language.ofName?))
    filePattern := ← j.opt "file_pattern" Json.asStr
    message := ← j.opt "message" text
    suggestion := ← j.opt "suggestion" text
    references := ← j.orElse "references" [] Json.asStrs }

end CodeAudit
