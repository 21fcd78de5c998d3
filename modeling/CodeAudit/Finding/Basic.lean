import CodeAudit.Finding.Category
import CodeAudit.Digest
import CodeAudit.Json
import CodeAudit.Language
import CodeAudit.Location
import CodeAudit.Severity

/-!
What rules and analyses report: violations and findings, the source of a categorized result, and
the normalized record that is stored, together with the texts an assistant may add to it.
-/
namespace CodeAudit

structure Violation where
  rule : String
  ruleName : String
  category : RuleCategory
  severity : Severity
  message : String
  file : String
  location : Location
  suggestion : Option String := none
  references : List String := []
deriving DecidableEq, Repr, Inhabited

structure Finding where
  id : String
  kind : FindingKind
  message : String
  severity : Severity
  location : Location
  metadata : List (String × Json) := []
deriving Inhabited

namespace Finding

/-- The id depends on kind, file, first line and message only, so that repeated runs agree. -/
def new (kind : FindingKind) (message : String) (severity : Severity) (location : Location) : Finding where
  id := Digest.short [kind.name, location.file, toString location.startLine, message]
  kind := kind
  message := message
  severity := severity
  location := location

def withMetadata (f : Finding) (k : String) (v : Json) : Finding :=
  { f with metadata := Json.insertField k v f.metadata }

end Finding

/-- Where a categorized result comes from. -/
inductive FindingSource where
  | violation (v : Violation)
  | static (f : Finding)
deriving Inhabited

namespace Location

def toJson (l : Location) : Json :=
  Json.object [("file_path", .str l.file), ("start_line", .nat l.startLine),
    ("start_column", .nat l.startColumn), ("end_line", .nat l.endLine), ("end_column", .nat l.endColumn)]

end Location

namespace FindingSource

def rule : FindingSource → String
  | violation v => v.rule
  | static f => f.kind.name

def severity : FindingSource → Severity
  | violation v => v.severity
  | static f => f.severity

def message : FindingSource → String
  | violation v => v.message
  | static f => f.message

def location : FindingSource → Location
  | violation v => v.location
  | static f => f.location

def file : FindingSource → String
  | violation v => v.file
  | static f => f.location.file

def suggestion : FindingSource → Option String
  | violation v => v.suggestion
  | static _ => none

/-- The whole record, under the kind of source it comes from. -/
def toRaw : FindingSource → Json
  | violation v => Json.object
    [("kind", .str "violation"),
     ("finding", Json.object
       [("rule_id", .str v.rule), ("rule_name", .str v.ruleName), ("category", .str v.category.name),
        ("severity", .str v.severity.name), ("message", .str v.message), ("file_path", .str v.file),
        ("location", v.location.toJson), ("suggestion", Json.ofOption .str v.suggestion),
        ("references", Json.strings v.references)])]
  | static f => Json.object
    [("kind", .str "static"),
     ("finding", Json.object
       [("id", .str f.id), ("kind", .str f.kind.name), ("message", .str f.message),
        ("severity", .str f.severity.name), ("location", f.location.toJson),
        ("metadata", .obj f.metadata)])]

end FindingSource

structure CategorizedResult where
  main : MainCategory
  sub : SubCategory
  source : FindingSource
deriving Inhabited

/-- Texts that an assistant wrote; those that are missing say nothing. -/
structure Assistance where
  explanation : Option String := none
  suggestion : Option String := none
  securityAdvice : Option String := none
deriving DecidableEq, Repr, Inhabited

namespace Assistance

def isEmpty (a : Assistance) : Bool :=
  a.explanation.isNone && a.suggestion.isNone && a.securityAdvice.isNone

/-- The texts of `new`, where it has one, else the old ones. -/
def update (old new : Assistance) : Assistance :=
  ⟨new.explanation.or old.explanation, new.suggestion.or old.suggestion,
   new.securityAdvice.or old.securityAdvice⟩

end Assistance

structure NormalizedResult where
  id : String
  project : String
  execution : String
  file : String
  lineStart : Nat
  lineEnd : Nat
  language : Language
  main : MainCategory
  sub : SubCategory
  rule : String
  severity : Severity
  message : String
  suggestion : Option String
  raw : Json
  assistance : Assistance := {}
  deterministic : Bool
deriving Inhabited

namespace NormalizedResult

/-- Writes an assistant's texts; nothing else changes. -/
def assist (r : NormalizedResult) (a : Assistance) : NormalizedResult :=
  { r with assistance := r.assistance.update a }

def isAssisted (r : NormalizedResult) : Bool := !r.assistance.isEmpty

end NormalizedResult
end CodeAudit
