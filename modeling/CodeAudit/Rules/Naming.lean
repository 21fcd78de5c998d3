import CodeAudit.Rules.Line

/-!
Naming conventions: a declaration on a masked line gives a name, and the name has to follow the
convention of its language. A line reports its first offender.
-/
namespace CodeAudit

structure NamingCheck where
  languages : List Language
  declaration : Regex
  /-- What is declared. -/
  kind : String
  convention : Regex
  conventionName : String
  allowed : List String := []

namespace NamingCheck

def pascalCase : String := "^_?[A-Z][A-Za-z0-9]*$"
def camelOrPascal : String := "^[_$]*[A-Za-z][A-Za-z0-9$]*$"
def mixedCaps : String := "^(?:[A-Za-z][A-Za-z0-9]*|(?:Test|Benchmark|Example|Fuzz)\\w*)$"

def of (languages : List Language) (declaration kind convention conventionName : String) : NamingCheck :=
  { languages := languages
    declaration := Regex.ofValid declaration
    kind := kind
    convention := Regex.ofValid convention
    conventionName := conventionName }

def fixtureNames : List String :=
  ["setUp", "tearDown", "setUpClass", "tearDownClass", "setUpModule", "tearDownModule",
   "asyncSetUp", "asyncTearDown"]

def all : List NamingCheck :=
  [of [.typescript, .javascript] "\\bclass\\s+([A-Za-z_$][\\w$]*)" "Class" pascalCase "PascalCase",
   of [.typescript] "\\b(?:interface|enum)\\s+([A-Za-z_$][\\w$]*)" "Type" pascalCase "PascalCase",
   of [.typescript, .javascript] "\\bfunction\\s*\\*?\\s*([A-Za-z_$][\\w$]*)\\s*[(<]" "Function" camelOrPascal
     "camelCase",
   of [.typescript, .javascript] "\\b(?:const|let|var)\\s+([A-Za-z_$][\\w$]*)\\s*[=:;]" "Variable"
     "^(?:[_$]*[A-Za-z][A-Za-z0-9$]*|[A-Z][A-Z0-9]*(?:_[A-Z0-9]+)*)$" "camelCase or UPPER_SNAKE_CASE",
   { of [.python] "^\\s*(?:async\\s+)?def\\s+(\\w+)" "Function" "^_\x7b0,2\x7d[a-z][a-z0-9_]*$" "snake_case" with
     allowed := fixtureNames },
   of [.python] "^\\s*class\\s+(\\w+)" "Class" pascalCase "PascalCase",
   of [.java, .kotlin, .csharp] "\\b(?:class|interface|enum|record)\\s+(\\w+)" "Type" pascalCase "PascalCase",
   of [.go] "^\\s*func\\s+(?:\\([^)]*\\)\\s*)?(\\w+)" "Function" mixedCaps "MixedCaps",
   of [.go] "^\\s*type\\s+(\\w+)\\s+(?:struct|interface)\\b" "Type" mixedCaps "MixedCaps"]

/-- The first declared name of a line that breaks the convention, with its column. -/
def offender? (c : NamingCheck) (masked : String) : Option (String × Nat) :=
  (c.declaration.findAll masked).findSome? fun m =>
    match m.group? 1, m.byteStart? 1 with
    | some name, some start =>
      if !c.allowed.contains name && !c.convention.isMatch name then some (name, start + 1) else none
    | _, _ => none

def rule : RuleDescriptor :=
  ⟨"style/naming-convention", "Naming convention", .style, .low,
   "Declaration name does not follow the language's naming convention"⟩

def check (u : TextUnit) (lines : List LinePair) : List Violation :=
  let checks := all.filter fun c => c.languages.contains u.language
  lines.zipIdx.filterMap fun (line, i) =>
    checks.findSome? fun c => (c.offender? line.masked).map fun (name, column) =>
      rule.violation u.path (i + 1) column s!"{c.kind} name '{name}' should be {c.conventionName}"
        (some "Rename the declaration")

end NamingCheck
end CodeAudit
