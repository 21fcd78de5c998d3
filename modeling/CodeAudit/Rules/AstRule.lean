import CodeAudit.Glob
import CodeAudit.Rules.Condition
import CodeAudit.Rules.Line

/-!
Rules on trees: which nodes of which files they report, and with what text. The text may be worked out
from the match by a function that can break down; then the rule reports nothing on that file.
-/
namespace CodeAudit

/-- What a text of a report is made from: the node, its file, and the fields that were tested. -/
structure MatchContext where
  node : AstNode
  file : AstFile
  captures : List (String × FieldValue)

namespace MatchContext

def name (c : MatchContext) : String := c.node.name.getD "<anonymous>"

def capture? (c : MatchContext) (field : String) : Option FieldValue := c.captures.lookup field

/-- The captured field as a text, empty if it is missing. -/
def captured (c : MatchContext) (field : String) : String :=
  ((c.capture? field).map FieldValue.render).getD ""

/-- The name, the file and all captured fields. -/
def summary (c : MatchContext) : String :=
  let fields := c.captures.map fun (k, v) => k ++ "=" ++ v.render
  c.name ++ " in " ++ c.file.path ++ ": " ++ Text.join "; " fields

/-- Fields in the order of their names, each once. -/
def insertCapture (k : String) (v : FieldValue) : List (String × FieldValue) → List (String × FieldValue)
  | [] => [(k, v)]
  | (k', v') :: rest =>
    if k < k' then (k, v) :: (k', v') :: rest
    else if k = k' then (k, v) :: rest
    else (k', v') :: insertCapture k v rest

end MatchContext

/-- A text of a report, or how working it out broke down. -/
abbrev ReportText := MatchContext → Except String String

def ReportText.fixed (s : String) : ReportText := fun _ => .ok s

structure AstRule where
  id : String
  name : String
  description : String := ""
  category : RuleCategory := .quality
  severity : Severity := .medium
  nodeKinds : List NodeKind := []
  conditions : List Condition := []
  languages : List Language := []
  filePattern : Option Glob := none
  message : ReportText
  suggestion : Option ReportText := none
  references : List String := []

namespace AstRule

def appliesTo (r : AstRule) (file : AstFile) : Bool :=
  (r.languages.isEmpty || r.languages.contains file.language)
    && r.filePattern.all fun g => g.isMatch file.path

/-- All conditions hold of a node of the right kind; without conditions no node is reported. -/
def selects (r : AstRule) (n : AstNode) : Bool :=
  !r.conditions.isEmpty && (r.nodeKinds.isEmpty || r.nodeKinds.contains n.kind)
    && r.conditions.all fun c => c.holds n

def context (r : AstRule) (n : AstNode) (file : AstFile) : MatchContext where
  node := n
  file := file
  captures := r.conditions.foldl (fun acc c =>
    match n.field? c.field with
    | some v => MatchContext.insertCapture c.field v acc
    | none => acc) []

def report (r : AstRule) (n : AstNode) (file : AstFile) : Except String Violation := do
  let ctx := r.context n file
  let message ← r.message ctx
  let suggestion ← r.suggestion.mapM fun text => text ctx
  return {
    rule := r.id
    ruleName := r.name
    category := r.category
    severity := r.severity
    message := message
    file := file.path
    location := { n.location with file := file.path }
    suggestion := suggestion
    references := r.references }

/-- The reports on one file, or how the rule broke down on it. -/
def check (r : AstRule) (file : AstFile) : Except String (List Violation) :=
  if r.appliesTo file then (file.nodes.filter r.selects).mapM fun n => r.report n file
  else .ok []

end AstRule

/-- A rule as it is written down, with patterns that have not been read yet. -/
structure AstRuleDraft where
  id : String
  name : Option String := none
  description : String := ""
  category : RuleCategory := .quality
  severity : Severity := .medium
  nodeKinds : List NodeKind := []
  conditions : List Condition := []
  /-- Fields with the regular expressions they must match; these conditions come last. -/
  patterns : List (String × String) := []
  languages : List Language := []
  filePattern : Option String := none
  message : Option ReportText := none
  suggestion : Option ReportText := none
  references : List String := []

namespace AstRuleDraft

def readPattern (id : String) (p : String × String) : Except RuleError Condition :=
  match Regex.compile? p.2 with
  | some r => .ok ⟨p.1, .matches r⟩
  | none => .error (.invalidPattern id p.2)

/-- The rule, unless it has no id or a pattern cannot be read; the first such reason wins. -/
def build (d : AstRuleDraft) : Except RuleError AstRule := do
  if Text.isBlank d.id then throw (.incomplete "rule id is empty")
  let matching ← d.patterns.mapM (readPattern d.id)
  let filePattern ← d.filePattern.mapM fun text =>
    match Glob.parse text with
    | .ok g => .ok g
    | .error e => .error (.invalidGlob d.id text (e.message text))
  let name := d.name.getD d.id
  return {
    id := d.id
    name := name
    description := d.description
    category := d.category
    severity := d.severity
    nodeKinds := d.nodeKinds
    conditions := d.conditions ++ matching
    languages := d.languages
    filePattern := filePattern
    message := d.message.getD (.fixed (name ++ " matched"))
    suggestion := d.suggestion
    references := d.references }

end AstRuleDraft
end CodeAudit
