import CodeAudit.Audit.Stage
import CodeAudit.Text.Basic
import CodeAudit.Text.Case

/-!
What can go wrong in an audit: the kinds of faults, how grave they are and how a run reacts.
-/
namespace CodeAudit

inductive FaultSeverity where
  | info
  | warning
  | error
  | fatal
deriving DecidableEq, Repr, Inhabited

namespace FaultSeverity

def name : FaultSeverity → String
  | info => "info"
  | warning => "warning"
  | error => "error"
  | fatal => "fatal"

/-- From this severity on the output of a stage does not count. -/
def failsStage : FaultSeverity → Bool
  | error | fatal => true
  | info | warning => false

/-- At least an error. -/
def raised : FaultSeverity → FaultSeverity
  | fatal => fatal
  | _ => error

end FaultSeverity

inductive RecoveryAction where
  /-- Leaves out the file, rule or pass at fault. -/
  | skip
  | retry
  /-- Keeps what there was before. -/
  | fallback
  | carryOn
  | abort
deriving DecidableEq, Repr, Inhabited

def RecoveryAction.name : RecoveryAction → String
  | skip => "skip"
  | retry => "retry"
  | fallback => "fallback"
  | carryOn => "continue"
  | abort => "abort"

inductive FaultKind where
  | sourceCollection
  | astParse
  | ruleExecution
  | assistantCall
  | assistantValidation
  | merge
  | storage
  | timeout
  | unknown
deriving DecidableEq, Repr, Inhabited

namespace FaultKind

def all : List FaultKind :=
  [sourceCollection, astParse, ruleExecution, assistantCall, assistantValidation, merge, storage,
   timeout, unknown]

def name : FaultKind → String
  | sourceCollection => "SOURCE_COLLECTION_FAILED"
  | astParse => "AST_PARSE_FAILED"
  | ruleExecution => "RULE_EXECUTION_FAILED"
  | assistantCall => "AI_CALL_FAILED"
  | assistantValidation => "AI_VALIDATION_FAILED"
  | merge => "MERGE_FAILED"
  | storage => "STORAGE_FAILED"
  | timeout => "TIMEOUT"
  | unknown => "UNKNOWN"

def ofName? (s : String) : Option FaultKind := all.find? fun k => k.name == s

def severity : FaultKind → FaultSeverity
  | sourceCollection => .fatal
  | astParse | ruleExecution => .warning
  | assistantCall | assistantValidation => .info
  | merge | storage | timeout | unknown => .error

/-- The first reaction. -/
def action : FaultKind → RecoveryAction
  | sourceCollection | storage => .abort
  | astParse | ruleExecution | unknown => .skip
  | assistantCall | assistantValidation | timeout => .retry
  | merge => .carryOn

/-- The reaction once all retries are used up. -/
def exhaustedAction : FaultKind → RecoveryAction
  | assistantCall | assistantValidation => .fallback
  | timeout => .skip
  | k => k.action

def isRetryable (k : FaultKind) : Bool := k.action = .retry

theorem exhaustedAction_ne_retry (k : FaultKind) : k.exhaustedAction ≠ .retry := by
  cases k <;> decide

/-- A guess from the text of a failure. -/
def classify (message : String) : FaultKind :=
  let has := Text.contains (Text.lowerCase message)
  if has "timed out" || has "timeout" then timeout
  else if has "storage" || has "sink" then storage
  else if has "parse" then astParse
  else unknown

end FaultKind

structure Fault where
  kind : FaultKind
  severity : FaultSeverity
  stage : Option Stage := none
  message : String
  isRetryable : Bool := kind.isRetryable
  file : Option String := none
  rule : Option String := none
  attempt : Option Nat := none
  /-- Whether another attempt is of use depends on the kind alone. -/
  isRetryable_eq : isRetryable = kind.isRetryable := by rfl
deriving DecidableEq, Repr

namespace Fault

/-- A fault of a kind, as grave as its kind. -/
def new (kind : FaultKind) (message : String) : Fault := { kind := kind, severity := kind.severity, message := message }

def atStage (f : Fault) (s : Stage) : Fault := { f with stage := some s }

def forFile (f : Fault) (file : String) : Fault := { f with file := some file }

def forRule (f : Fault) (rule : String) : Fault := { f with rule := some rule }

def onAttempt (f : Fault) (n : Nat) : Fault := { f with attempt := some n }

/-- A fault that stopped its stage counts as an error at least. -/
def stageAborted (f : Fault) : Fault := { f with severity := f.severity.raised }

def failsStage (f : Fault) : Bool := f.severity.failsStage

def text (f : Fault) : String := f.kind.name ++ ": " ++ f.message

end Fault
end CodeAudit
