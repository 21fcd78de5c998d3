import CodeAudit.Rules.AstRule
import CodeAudit.Rules.Sets

/-!
Running rules on trees over many files. A rule that breaks down on a file costs its own reports on that
file and nothing else. Also the built-in rules and the catalog of all rules.
-/
namespace CodeAudit

structure RuleRun where
  violations : List Violation := []
  errors : List RuleError := []
  filesChecked : Nat := 0
deriving Inhabited

/-- Rules in the order in which they were added, at most one per id. -/
structure RuleEngine where
  rules : List AstRule := []

namespace RuleEngine

/-- Adds a rule behind all others and gives up one with the same id. -/
def add (e : RuleEngine) (r : AstRule) : RuleEngine :=
  ⟨e.rules.filter (fun s => s.id != r.id) ++ [r]⟩

def remove (e : RuleEngine) (id : String) : RuleEngine := ⟨e.rules.filter fun s => s.id != id⟩

def contains (e : RuleEngine) (id : String) : Bool := e.rules.any fun s => s.id == id

/-- What one rule makes of one file. -/
def outcome (r : AstRule) (file : AstFile) : Except RuleError (List Violation) :=
  match r.check file with
  | .ok found => .ok found
  | .error why => .error (.execution r.id file.path why)

def found : Except RuleError (List Violation) → List Violation
  | .ok vs => vs
  | .error _ => []

def failed : Except RuleError (List Violation) → List RuleError
  | .ok _ => []
  | .error e => [e]

/-- Runs all rules on all files that could be parsed; reports by file, line and rule. -/
def execute (e : RuleEngine) (files : List AstFile) : RuleRun :=
  let checked := files.filter fun f => !f.hasError
  let outcomes := checked.flatMap fun f => e.rules.map fun r => outcome r f
  { violations := Violation.sortByFile (outcomes.flatMap found)
    errors := outcomes.flatMap failed
    filesChecked := checked.length }

end RuleEngine

namespace AstRule

def tooManyParameters : AstRule where
  id := "ast/too-many-parameters"
  name := "Too many parameters"
  description := "Functions taking more than five parameters"
  category := .style
  severity := .low
  nodeKinds := [.function]
  conditions := [⟨"paramCount", .greater 5.0⟩]
  message ctx := .ok ("Function '" ++ ctx.name ++ "' takes " ++ ctx.captured "paramCount" ++ " parameters")
  suggestion := some (.fixed "Group related parameters into an options object or struct")

def asyncWithoutAwait : AstRule where
  id := "ast/async-without-await"
  name := "Async function without await"
  description := "Async functions whose body never awaits"
  category := .quality
  severity := .low
  nodeKinds := [.function]
  conditions := [⟨"async", .equals (.bool true)⟩, ⟨"hasAwait", .equals (.bool false)⟩,
    ⟨"bodyEmpty", .notEquals (.bool true)⟩]
  message ctx := .ok ("Async function '" ++ ctx.name ++ "' never awaits")
  suggestion := some (.fixed "Drop the async modifier or await the asynchronous work")

def emptyFunction : AstRule where
  id := "ast/empty-function"
  name := "Empty function body"
  description := "Functions with an empty body"
  category := .quality
  severity := .info
  nodeKinds := [.function]
  conditions := [⟨"bodyEmpty", .equals (.bool true)⟩,
    ⟨"name", .noneOf [.text "constructor", .text "__init__", .text "init"]⟩]
  message ctx := .ok ("Function '" ++ ctx.name ++ "' has an empty body")

def largeClass : AstRule where
  id := "ast/large-class"
  name := "Large class"
  description := "Classes spanning more than 500 lines"
  category := .architecture
  severity := .medium
  nodeKinds := [.classType]
  conditions := [⟨"lineCount", .greater 500.0⟩]
  message ctx := .ok ("Class '" ++ ctx.name ++ "' spans more than 500 lines")
  suggestion := some (.fixed "Split the class along its responsibilities")

def wideInheritance : AstRule where
  id := "ast/wide-inheritance"
  name := "Wide interface implementation"
  description := "Classes implementing more than four interfaces"
  category := .architecture
  severity := .low
  nodeKinds := [.classType]
  conditions := [⟨"implements.length", .greater 4.0⟩]
  message ctx := .ok ("Class '" ++ ctx.name ++ "' implements " ++ ctx.captured "implements.length"
    ++ " interfaces")
  suggestion := some (.fixed "Prefer composition over accumulating interfaces")

def builtin : List AstRule :=
  [tooManyParameters, asyncWithoutAwait, emptyFunction, largeClass, wideInheritance]

end AstRule

/-- What a rule looks at. -/
inductive RuleKind where
  | lexical
  | ast
deriving DecidableEq, Repr

def RuleKind.name : RuleKind → String
  | lexical => "lexical"
  | ast => "ast"

structure CatalogEntry where
  descriptor : RuleDescriptor
  kind : RuleKind
deriving DecidableEq, Repr

namespace RuleCatalog

/-- Every built-in rule, those on text first. -/
def entries : List CatalogEntry :=
  let sets := [Hazards.ruleSet, Readability.ruleSet, TestHygiene.ruleSet, ImportHygiene.ruleSet]
  sets.flatMap (fun s => s.rules.map fun d => ⟨d, .lexical⟩)
    ++ AstRule.builtin.map fun r => ⟨⟨r.id, r.name, r.category, r.severity, r.description⟩, .ast⟩

def get? (id : String) : Option CatalogEntry := entries.find? fun e => e.descriptor.id == id

def ofCategory (c : RuleCategory) : List CatalogEntry := entries.filter fun e => e.descriptor.category == c

end RuleCatalog
end CodeAudit
