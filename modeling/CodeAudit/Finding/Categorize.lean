import CodeAudit.Finding.Basic
import CodeAudit.Language.Detection
import CodeAudit.Text.Case

/-!
The categories of violations and findings, by a table of known rules and, for all others, by the
words in their names; and the normalized record of a categorized result.
-/
namespace CodeAudit

/-- The categories of known rules and kinds of findings. -/
def categoryTable : List (String × MainCategory × SubCategory) :=
  [("security/aws-secret-key", .security, .secret),
   ("security/aws-access-key-id", .security, .secret),
   ("security/private-key", .security, .secret),
   ("security/github-token", .security, .secret),
   ("security/slack-token", .security, .secret),
   ("security/stripe-key", .security, .secret),
   ("security/hardcoded-secret", .security, .secret),
   ("security/sql-injection", .security, .injection),
   ("security/command-injection", .security, .injection),
   ("security/xss", .security, .xss),
   ("security/unsafe-eval", .security, .codeExecution),
   ("security/weak-crypto", .security, .crypto),
   ("security/insecure-transport", .security, .transport),
   ("security/disabled-verification", .security, .authentication),
   ("security/unsafe-deserialization", .security, .deserialization),
   ("security/sensitive-logging", .security, .dataExposure),
   ("style/naming-convention", .standards, .naming),
   ("style/magic-number", .standards, .magicValue),
   ("style/debug-statement", .operations, .debugCode),
   ("style/long-line", .standards, .formatting),
   ("style/long-function", .quality, .functionSize),
   ("style/unsafe-type", .quality, .typeSafety),
   ("test/missing-test-file", .test, .coverage),
   ("test/skipped-test", .test, .testQuality),
   ("test/focused-test", .test, .testQuality),
   ("test/empty-test", .test, .testQuality),
   ("test/no-assertions", .test, .testQuality),
   ("architecture/index-self-import", .structural, .circularDependency),
   ("architecture/barrel-cycle", .structural, .circularDependency),
   ("architecture/lodash-full-import", .structural, .importHygiene),
   ("architecture/require-in-typescript", .structural, .importHygiene),
   ("architecture/deep-relative-import", .structural, .importHygiene),
   ("architecture/cross-package-internals", .structural, .importHygiene),
   ("ast/too-many-parameters", .quality, .functionSize),
   ("ast/async-without-await", .quality, .other),
   ("ast/empty-function", .quality, .deadCode),
   ("ast/large-class", .structural, .moduleSize),
   ("ast/wide-inheritance", .structural, .coupling),
   ("high-complexity", .quality, .complexity),
   ("file-too-long", .quality, .fileSize),
   ("layer-violation", .structural, .layering),
   ("deep-nesting", .structural, .nesting),
   ("fat-module", .structural, .moduleSize),
   ("circular-dependency", .structural, .circularDependency),
   ("high-coupling", .structural, .coupling),
   ("dead-code", .quality, .deadCode),
   ("deep-call-chain", .structural, .callDepth)]

/-- The words that tell a subcategory; the first line with a word in the text counts. -/
def subCategoryWords : List (List String × SubCategory) :=
  [(["secret", "password", "credential", "token", "api key", "apikey"], .secret),
   (["inject", "sql"], .injection),
   (["xss", "innerhtml"], .xss),
   (["eval", "exec"], .codeExecution),
   (["crypto", "cipher", "md5", "sha1"], .crypto),
   (["http", "tls", "ssl", "transport"], .transport),
   (["auth", "verif"], .authentication),
   (["deserial", "pickle"], .deserialization),
   (["complex"], .complexity),
   (["cycle", "circular"], .circularDependency),
   (["layer"], .layering),
   (["nest"], .nesting),
   (["coupl", "fan-out", "fan out"], .coupling),
   (["import", "require"], .importHygiene),
   (["dead", "unused", "unreachable"], .deadCode),
   (["debug", "console", "print"], .debugCode),
   (["log"], .logging),
   (["magic"], .magicValue),
   (["naming", "name", "case"], .naming),
   (["line length", "long-line", "format", "indent"], .formatting),
   (["param", "function length", "long function"], .functionSize),
   (["type"], .typeSafety),
   (["coverage", "missing test"], .coverage),
   (["test", "assert"], .testQuality),
   (["size", "large", "long"], .fileSize)]

/-- The words in the name of a category of one's own that tell a main category. -/
def mainCategoryWords : List (List String × MainCategory) :=
  [(["secur", "vuln"], .security),
   (["test"], .test),
   (["arch", "struct", "depend"], .structural),
   (["log", "ops", "operation"], .operations),
   (["style", "naming", "format"], .standards)]

/-- The value of the first line with a word in the text, letter case apart. -/
def byWords? {α : Type} (table : List (List String × α)) (text : String) : Option α :=
  let text := Text.lowerCase text
  (table.find? fun line => line.1.any (Text.contains text)).map (·.2)

def SubCategory.infer (text : String) : SubCategory := (byWords? subCategoryWords text).getD .other

def MainCategory.infer : RuleCategory → MainCategory
  | .security => .security
  | .style => .standards
  | .architecture => .structural
  | .test => .test
  | .quality => .quality
  | .custom name => (byWords? mainCategoryWords name).getD .quality

def Violation.categorize (v : Violation) : CategorizedResult :=
  let (main, sub) := (categoryTable.lookup v.rule).getD
    (MainCategory.infer v.category, SubCategory.infer (v.ruleName ++ " " ++ v.rule))
  ⟨main, sub, .violation v⟩

def Finding.categorize (f : Finding) : CategorizedResult :=
  let (main, sub) := (categoryTable.lookup f.kind.name).getD (.quality, SubCategory.infer f.kind.name)
  ⟨main, sub, .static f⟩

/-- Violations first, then findings, each in their order. -/
def categorizeAll (violations : List Violation) (findings : List Finding) : List CategorizedResult :=
  violations.map Violation.categorize ++ findings.map Finding.categorize

/-- What the results of one run have in common. -/
structure RunContext where
  project : String
  execution : String
  mappings : List LanguageMapping

namespace RunContext

/-- The language of a path; of several mappings the last one counts. -/
def languageOf (c : RunContext) (path : String) : Language :=
  ((c.mappings.reverse.find? fun m => m.path = path).map (·.language)).getD .unknown

/-- The id of the result at a place; it tells the run too. -/
def resultId (c : RunContext) (place : Nat) : String := s!"{c.execution}/{place}"

/-- The record of a categorized result; it never ends before it starts. -/
def normalize (c : RunContext) (r : CategorizedResult) (place : Nat) : NormalizedResult where
  id := c.resultId place
  project := c.project
  execution := c.execution
  file := r.source.file
  lineStart := r.source.location.startLine
  lineEnd := max r.source.location.endLine r.source.location.startLine
  language := c.languageOf r.source.file
  main := r.main
  sub := r.sub
  rule := r.source.rule
  severity := r.source.severity
  message := r.source.message
  suggestion := r.source.suggestion
  raw := r.source.toRaw
  deterministic := true

def normalizeAll (c : RunContext) (rs : List CategorizedResult) : List NormalizedResult :=
  rs.zipIdx.map fun (r, place) => c.normalize r place

end RunContext
end CodeAudit
