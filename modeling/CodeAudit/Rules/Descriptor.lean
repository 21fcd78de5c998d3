import CodeAudit.Finding.Basic

/-!
What a built-in rule says about itself, and how a rule can go wrong.
-/
namespace CodeAudit

structure RuleDescriptor where
  id : String
  name : String
  category : RuleCategory
  severity : Severity
  description : String
deriving DecidableEq, Repr, Inhabited

/-- A violation at one position of a file. -/
def RuleDescriptor.violation (d : RuleDescriptor) (file : String) (line column : Nat) (message : String)
    (suggestion : Option String) : Violation where
  rule := d.id
  ruleName := d.name
  category := d.category
  severity := d.severity
  message := message
  file := file
  location := ⟨file, line, column, line, column⟩
  suggestion := suggestion

inductive RuleError where
  | invalidPattern (rule pattern : String)
  | invalidGlob (rule pattern message : String)
  | incomplete (what : String)
  | missingContent (path : String)
  | execution (rule file message : String)
deriving DecidableEq, Repr, Inhabited

namespace RuleError

def rule? : RuleError → Option String
  | invalidPattern rule _ | invalidGlob rule _ _ | execution rule _ _ => some rule
  | _ => none

def message : RuleError → String
  | invalidPattern rule pattern => s!"Rule {rule}: invalid pattern '{pattern}'"
  | invalidGlob rule pattern why => s!"Rule {rule}: invalid file pattern '{pattern}': {why}"
  | incomplete what => s!"Rule definition incomplete: {what}"
  | missingContent path => s!"File has no content: {path}"
  | execution rule file why => s!"Rule {rule} failed on {file}: {why}"

end RuleError

/-- Why a check gave no answer: it reported an error, or it broke down. -/
inductive CheckFailure where
  | error (e : RuleError)
  | panicked (text : String)
deriving DecidableEq, Repr, Inhabited

end CodeAudit
