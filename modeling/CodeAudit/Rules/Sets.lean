import CodeAudit.Rules.Hazards
import CodeAudit.Rules.ImportHygiene
import CodeAudit.Rules.Readability
import CodeAudit.Rules.TestHygiene

/-!
The built-in sets of rules on text and running several of them; a set that fails leaves the reports
of the others alone.
-/
namespace CodeAudit

/-- Which sets of rules are switched on. -/
structure RuleToggles where
  security : Bool := true
  style : Bool := true
  architecture : Bool := true
  test : Bool := true
  ast : Bool := true
deriving DecidableEq, Repr, Inhabited

namespace TextRuleSet

def enabled (t : RuleToggles) : List TextRuleSet :=
  (if t.security then [Hazards.ruleSet] else []) ++ (if t.style then [Readability.ruleSet] else []) ++
    (if t.test then [TestHygiene.ruleSet] else []) ++
    (if t.architecture then [ImportHygiene.ruleSet] else [])

structure Run where
  violations : List Violation := []
  errors : List RuleError := []
deriving Inhabited

/-- Takes the outcomes of the sets in order; a breakdown of one set breaks the whole run. -/
def gather : List (Except CheckFailure (List Violation)) → Except String Run
  | [] => .ok {}
  | .ok found :: rest => (gather rest).map fun r => { r with violations := found ++ r.violations }
  | .error (.error e) :: rest => (gather rest).map fun r => { r with errors := e :: r.errors }
  | .error (.panicked text) :: _ => .error text

/-- The reports of all sets, by file, line and rule. -/
def runAll (sets : List TextRuleSet) (units : List TextUnit) : Except String Run :=
  (gather (sets.map fun s => s.checkProject units)).map fun r =>
    { r with violations := Violation.sortByFile r.violations }

end TextRuleSet
end CodeAudit
