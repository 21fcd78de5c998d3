import CodeAudit.Text.Case

/-!
The categories that rules declare for themselves, the kinds of findings of the analyses, and the
two-level categories of normalized results.
-/
namespace CodeAudit

inductive RuleCategory where
  | security
  | style
  | architecture
  | test
  | quality
  | custom (name : String)
deriving DecidableEq, Repr, Inhabited

namespace RuleCategory

def name : RuleCategory → String
  | security => "security"
  | style => "style"
  | architecture => "architecture"
  | test => "test"
  | quality => "quality"
  | custom s => s

def wellKnown : List RuleCategory := [security, style, architecture, test, quality]

/-- A well-known name in any case; any other text is a category of its own. -/
def ofName (s : String) : RuleCategory :=
  (wellKnown.find? fun c => c.name == Text.lowerCase s).getD (custom s)

def isCustom : RuleCategory → Bool
  | custom _ => true
  | _ => false

end RuleCategory

inductive FindingKind where
  | highComplexity
  | fileTooLong
  | layerViolation
  | deepNesting
  | fatModule
  | circularDependency
  | highCoupling
  | deadCode
  | deepCallChain
deriving DecidableEq, Repr, Inhabited

namespace FindingKind

def all : List FindingKind :=
  [highComplexity, fileTooLong, layerViolation, deepNesting, fatModule, circularDependency,
   highCoupling, deadCode, deepCallChain]

def name : FindingKind → String
  | highComplexity => "high-complexity"
  | fileTooLong => "file-too-long"
  | layerViolation => "layer-violation"
  | deepNesting => "deep-nesting"
  | fatModule => "fat-module"
  | circularDependency => "circular-dependency"
  | highCoupling => "high-coupling"
  | deadCode => "dead-code"
  | deepCallChain => "deep-call-chain"

def ofName? (s : String) : Option FindingKind := all.find? fun k => k.name == s

/-- The place in the list of all kinds, by which findings of one line are ordered. -/
def rank (k : FindingKind) : Nat := all.idxOf k

end FindingKind

inductive MainCategory where
  | structural
  | quality
  | security
  | operations
  | test
  | standards
deriving DecidableEq, Repr, Inhabited

namespace MainCategory

def all : List MainCategory := [structural, quality, security, operations, test, standards]

def name : MainCategory → String
  | structural => "STRUCTURE"
  | quality => "QUALITY"
  | security => "SECURITY"
  | operations => "OPERATIONS"
  | test => "TEST"
  | standards => "STANDARDS"

end MainCategory

inductive SubCategory where
  | secret
  | injection
  | xss
  | codeExecution
  | crypto
  | transport
  | authentication
  | deserialization
  | dataExposure
  | complexity
  | fileSize
  | deadCode
  | naming
  | magicValue
  | debugCode
  | formatting
  | functionSize
  | typeSafety
  | coupling
  | circularDependency
  | layering
  | nesting
  | moduleSize
  | callDepth
  | importHygiene
  | coverage
  | testQuality
  | logging
  | other
deriving DecidableEq, Repr, Inhabited

namespace SubCategory

def name : SubCategory → String
  | secret => "SECRET"
  | injection => "INJECTION"
  | xss => "XSS"
  | codeExecution => "CODE_EXECUTION"
  | crypto => "CRYPTO"
  | transport => "TRANSPORT"
  | authentication => "AUTHENTICATION"
  | deserialization => "DESERIALIZATION"
  | dataExposure => "DATA_EXPOSURE"
  | complexity => "COMPLEXITY"
  | fileSize => "FILE_SIZE"
  | deadCode => "DEAD_CODE"
  | naming => "NAMING"
  | magicValue => "MAGIC_VALUE"
  | debugCode => "DEBUG_CODE"
  | formatting => "FORMATTING"
  | functionSize => "FUNCTION_SIZE"
  | typeSafety => "TYPE_SAFETY"
  | coupling => "COUPLING"
  | circularDependency => "CIRCULAR_DEPENDENCY"
  | layering => "LAYERING"
  | nesting => "NESTING"
  | moduleSize => "MODULE_SIZE"
  | callDepth => "CALL_DEPTH"
  | importHygiene => "IMPORT_HYGIENE"
  | coverage => "COVERAGE"
  | testQuality => "TEST_QUALITY"
  | logging => "LOGGING"
  | other => "OTHER"

end SubCategory
end CodeAudit
