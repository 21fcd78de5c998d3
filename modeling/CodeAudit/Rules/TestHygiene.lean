import CodeAudit.Lexical.Block
import CodeAudit.Rules.Line

/-!
Rules on tests: skipped, focused and empty ones, test files that assert nothing, and sizeable source
files that no test file is named after.
-/
namespace CodeAudit.TestHygiene

def descriptor (name title : String) (severity : Severity) (description : String) : RuleDescriptor :=
  ⟨"test/" ++ name, title, .test, severity, description⟩

def missingTestFile := descriptor "missing-test-file" "Missing test file" .medium
  "Significant source file without a corresponding test file"
def skippedTest := descriptor "skipped-test" "Skipped test" .low "Test disabled with a skip marker"
def focusedTest := descriptor "focused-test" "Focused test" .medium
  "Focused test silently excludes the rest of the suite"
def emptyTest := descriptor "empty-test" "Empty test" .low "Test with an empty body"
def noAssertions := descriptor "no-assertions" "Test without assertions" .medium
  "Test file that never asserts anything"

def descriptors : List RuleDescriptor :=
  [missingTestFile, skippedTest, focusedTest, emptyTest, noAssertions]

/-- A source file with this many lines of code is expected to have tests. -/
def significantLines : Nat := 30

def testedLanguages : List Language := [.typescript, .javascript, .python, .java, .kotlin, .go]

/-- Entry points and package markers, which need no tests of their own. -/
def untestedStems : List String := ["index", "__init__", "__main__", "main", "setup", "conftest"]

def patterns (texts : List String) : List Regex := texts.map Regex.ofValid

def lineRules : List LineRule :=
  [{ descriptor := skippedTest
     patterns := patterns
       ["\\b(?:it|test|describe|context)\\.skip\\s*\\(", "(?:^|[^\\w.])x(?:it|test|describe)\\s*\\(",
        "@pytest\\.mark\\.skip\\w*", "@unittest\\.skip\\w*", "@(?:Disabled|Ignore)\\b",
        "\\bt\\.Skip(?:f|Now)?\\s*\\("]
     message := "Test is skipped"
     suggestion := "Fix or delete the test instead of skipping it" },
   { descriptor := focusedTest
     patterns := patterns
       ["\\b(?:it|test|describe|context)\\.only\\s*\\(", "(?:^|[^\\w.])f(?:it|describe)\\s*\\("]
     message := "Focused test excludes the rest of the suite"
     suggestion := "Remove .only before committing" },
   { descriptor := emptyTest
     patterns := patterns
       ["\\b(?:it|test)\\s*\\(\\s*['\"\x60][^'\"\x60]*['\"\x60]\\s*,\\s*(?:async\\s+)?(?:\\(\\s*\\)\\s*=>|function\\s*\\(\\s*\\))\\s*\\\x7b\\s*\\\x7d"]
     message := "Test body is empty"
     suggestion := "Implement the test or remove it" },
   { descriptor := emptyTest
     patterns := patterns ["\\bfunc\\s+Test\\w*\\s*\\(\\s*\\w+\\s+\\*testing\\.T\\s*\\)\\s*\\\x7b\\s*\\\x7d"]
     languages := [.go]
     message := "Test body is empty"
     suggestion := "Implement the test or remove it" },
   { descriptor := emptyTest
     patterns := patterns
       ["@Test\\s+(?:public\\s+)?void\\s+\\w+\\s*\\(\\s*\\)\\s*(?:throws\\s+[\\w.,\\s]+)?\\\x7b\\s*\\\x7d"]
     languages := [.java, .kotlin]
     message := "Test body is empty"
     suggestion := "Implement the test or remove it" }]

def pythonTest : Regex := Regex.ofValid "^\\s*(?:async\\s+)?def\\s+(test\\w*)\\s*\\("

def testDefinition : Regex := Regex.ofValid
  "(?:^|[^\\w.])(?:it|test)\\s*\\(|^\\s*(?:async\\s+)?def\\s+test|\\bfunc\\s+Test\\w*\\s*\\(|@Test\\b"

def assertion : Regex := Regex.ofValid
  "\\bexpect\\s*\\(|\\bassert\\w*|\\.should\\b|\\bt\\.(?:Error|Errorf|Fatal|Fatalf|Fail|FailNow)\\s*\\(|\\bverify\\s*\\(|\\bpytest\\.raises\\b|\\brequire\\.\\w+\\s*\\(|\\.to(?:Be|Equal|Have|Throw|Match|Contain)\\w*\\s*\\("

def declaration : Regex := Regex.ofValid "\\b(?:function|class|def|func|interface)\\b"

/-- A trimmed line that stands for nothing: empty, `pass`, `...`, or the quotes of a masked text. -/
def isPlaceholder (line : String) : Bool :=
  line == "pass" || line == "..." || line.toList.all fun c => c == '"' || c == '\''

/-- The text after the last colon. -/
def afterColon (line : String) : String :=
  match Text.cutLast? line ":" with
  | none => line
  | some (_, rest) => rest

/-- Whether the test that begins on line `i` does nothing. -/
def isEmptyBody (masked : List String) (i : Nat) (line : String) : Bool :=
  let last := Lexical.indentBlockEnd masked i
  if last = i then isPlaceholder (Text.trim (afterColon line))
  else (((masked.drop (i + 1)).take (last - i)).filter fun l => !Text.isBlank l).all
    fun l => isPlaceholder (Text.trim l)

def emptyPythonTests (u : TextUnit) (lines : List LinePair) : List Violation :=
  let masked := lines.map (·.masked)
  masked.zipIdx.filterMap fun (line, i) =>
    match pythonTest.find? line with
    | none => none
    | some m =>
      let name := (m.group? 1).getD "test"
      if isEmptyBody masked i line then
        some (emptyTest.violation u.path (i + 1) 1 s!"Test '{name}' has an empty body"
          (some "Implement the test or remove it"))
      else none

/-- The first test of a file that asserts nothing anywhere. -/
def missingAssertions? (u : TextUnit) (lines : List LinePair) : Option Violation :=
  match lines.findIdx? fun l => testDefinition.isMatch l.masked with
  | none => none
  | some first =>
    if lines.any fun l => assertion.isMatch l.masked then none
    else some (noAssertions.violation u.path (first + 1) 1 "Test file contains tests but no assertions"
      (some "Assert on the behaviour under test"))

def check (u : TextUnit) (content : String) : List Violation :=
  if u.isTest then
    let lines := LinePair.ofContent content u.language
    Violation.sortByLine
      (LineRule.checkAll lineRules u lines ++
        (if u.language = .python then emptyPythonTests u lines else []) ++
        (missingAssertions? u lines).toList)
  else []

/-- A file name up to its first dot. -/
def stem (name : String) : String := String.ofList (name.toList.takeWhile (· != '.'))

/-- The name, in lower case, of what a test file tests. -/
def testedSubject (name : String) : String :=
  let base := (([".test.", ".spec."].findSome? fun marker => Text.cut? name marker).map (·.1)).getD (stem name)
  let base := (Text.afterHead? base "test_").getD base
  let base := (((Text.beforeTail? base "_test").or (Text.beforeTail? base "Tests")).or
    (Text.beforeTail? base "Test")).getD base
  Text.asciiLowerCase base

/-- Whether a file is source code that ought to be tested. -/
def isSignificant (u : TextUnit) (content : String) : Bool :=
  let name := u.fileName
  if u.isTest || !testedLanguages.contains u.language || Text.endsWith name ".d.ts" ||
      untestedStems.contains (stem name) then false
  else
    let masked := Lexical.mask u.language content
    significantLines ≤ Lexical.codeLineCount masked && declaration.isMatch masked

def suggestedName (u : TextUnit) : String :=
  let base := stem u.fileName
  let ext := match Text.cutLast? u.fileName "." with
    | some (_, e) => e
    | none => u.fileName
  match u.language with
  | .typescript | .javascript => s!"{base}.test.{ext}"
  | .python => s!"test_{base}.py"
  | .go => s!"{base}_test.go"
  | .java | .kotlin => s!"{base}Test.{ext}"
  | _ => s!"tests for {base}"

/-- Source files that ought to be tested and that no test file is named after. -/
def missingTestFiles (units : List TextUnit) : List Violation :=
  let tested := (units.filter TextUnit.isTest).map fun u => testedSubject u.fileName
  units.filterMap fun u =>
    match u.content with
    | none => none
    | some content =>
      if !isSignificant u content || tested.contains (Text.asciiLowerCase (stem u.fileName)) then none
      else some (missingTestFile.violation u.path 1 1 ("No test file found for " ++ u.path)
        (some ("Add a test file such as " ++ suggestedName u)))

/-- The set of rules on tests. -/
def ruleSet : TextRuleSet where
  id := "test"
  category := .test
  rules := descriptors
  check := TextRuleSet.onContent check
  finish units found := Violation.sortByFile (found ++ missingTestFiles units)

end CodeAudit.TestHygiene
