import CodeAudit.Lexical.Block
import CodeAudit.Rules.Naming

/-!
Style rules on text: names, unnamed numbers, debug output, long lines, long functions, and ways
around type checking. Tests may hold numbers and debug output.
-/
namespace CodeAudit.Readability

def descriptor (name title : String) (severity : Severity) (description : String) : RuleDescriptor :=
  ⟨"style/" ++ name, title, .style, severity, description⟩

def magicNumber := descriptor "magic-number" "Magic number" .info "Unnamed numeric literal in logic"
def debugStatement := descriptor "debug-statement" "Debug statement" .low
  "Debug output or breakpoint left in production code"
def longLine := descriptor "long-line" "Long line" .info "Line longer than 120 characters"
def longFunction := descriptor "long-function" "Long function" .low "Function body longer than 50 lines"
def unsafeType := descriptor "unsafe-type" "Type safety escape" .medium "Type checking is bypassed"

def descriptors : List RuleDescriptor :=
  [NamingCheck.rule, magicNumber, debugStatement, longLine, longFunction, unsafeType]

def maxLineLength : Nat := 120
def maxFunctionLines : Nat := 50

def ecma : List Language := [.typescript, .javascript]

def number : Regex := Regex.ofValid "(?:^|[^\\w.$])(-?\\d+(?:\\.\\d+)?)\\b"

/-- Lines on which a number is expected: constants, imports, directives and annotations. -/
def numberExempt : Regex := Regex.ofValid
  "^\\s*(?:(?:export\\s+)?const\\s+[A-Z_][A-Z0-9_]*\\s*[=:]|[A-Z_][A-Z0-9_]*\\s*[:=]|.*\\bstatic\\s+final\\b|import\\b|from\\b|#\\s*define\\b|@\\w+)"

def allowedNumbers : List String := ["0", "1", "2", "-1", "10", "100", "0.5", "1.0", "0.0"]

/-- The first number of a masked line that needs a name, with its column. -/
def magicNumber? (masked : String) : Option (String × Nat) :=
  if numberExempt.isMatch masked then none
  else (number.findAll masked).findSome? fun m =>
    match m.group? 1, m.byteStart? 1 with
    | some n, some start => if allowedNumbers.contains n then none else some (n, start + 1)
    | _, _ => none

def magicNumbers (u : TextUnit) (lines : List LinePair) : List Violation :=
  lines.zipIdx.filterMap fun (line, i) =>
    (magicNumber? line.masked).map fun (n, column) =>
      magicNumber.violation u.path (i + 1) column s!"Magic number {n} should be a named constant"
        (some "Extract the value into a descriptive constant")

/-- Lines that are too long; one that holds a web address may be. -/
def longLines (u : TextUnit) (lines : List LinePair) : List Violation :=
  lines.zipIdx.filterMap fun (line, i) =>
    let length := line.raw.length
    if length ≤ maxLineLength || Text.contains line.raw "http://" || Text.contains line.raw "https://" then none
    else some (longLine.violation u.path (i + 1) (maxLineLength + 1)
      s!"Line is {length} characters long (limit {maxLineLength})" (some "Break the line up"))

/-- The first lines of functions, by language. -/
def headers : List (List Language × Regex) :=
  [(ecma, Regex.ofValid "\\bfunction\\s*\\*?\\s*([A-Za-z_$][\\w$]*)?\\s*[(<]"),
   (ecma, Regex.ofValid
     "\\b(?:const|let|var)\\s+([A-Za-z_$][\\w$]*)\\s*(?::[^=]+)?=\\s*(?:async\\s+)?(?:\\([^)]*\\)|[A-Za-z_$][\\w$]*)\\s*(?::[^=]+)?=>"),
   (ecma, Regex.ofValid
     "^\\s*(?:(?:public|private|protected|static|async|readonly|override|get|set)\\s+)*([A-Za-z_$][\\w$]*)\\s*\\([^;]*\\)\\s*(?::[^\x7b;]+)?\\\x7b\\s*$"),
   ([.python], Regex.ofValid "^\\s*(?:async\\s+)?def\\s+(\\w+)"),
   ([.java, .kotlin, .csharp], Regex.ofValid
     "^\\s*(?:(?:public|private|protected|internal|static|final|abstract|synchronized|override|virtual|async)\\s+)+[\\w<>\\[\\]?,.\\s]*?(\\w+)\\s*\\("),
   ([.go], Regex.ofValid "^\\s*func\\s+(?:\\([^)]*\\)\\s*)?(\\w+)\\s*[(\\[]")]

def controlKeywords : List String :=
  ["if", "for", "while", "switch", "catch", "return", "function", "else", "do", "try", "new"]

/-- The name of the function that a masked line begins. -/
def headerName? (headers : List Regex) (masked : String) : Option String :=
  match headers.findSome? fun r => r.find? masked with
  | none => none
  | some m =>
    let name := (m.group? 1).getD "<anonymous>"
    if controlKeywords.contains name then none else some name

def longFunctions (u : TextUnit) (lines : List LinePair) : List Violation :=
  let own := (headers.filter fun h => h.1.contains u.language).map (·.2)
  let masked := lines.map (·.masked)
  let blockEnd? := fun i =>
    if u.language = .python then some (Lexical.indentBlockEnd masked i) else Lexical.braceBlockEnd? masked i
  masked.zipIdx.filterMap fun (line, i) =>
    match headerName? own line, blockEnd? i with
    | some name, some last =>
      let length := last - i + 1
      if length ≤ maxFunctionLines then none
      else some (longFunction.violation u.path (i + 1) 1
        s!"Function '{name}' is {length} lines long (limit {maxFunctionLines})"
        (some "Extract parts of the body into smaller functions"))
    | _, _ => none

def patterns (texts : List String) : List Regex := texts.map Regex.ofValid

def lineRules : List LineRule :=
  [{ descriptor := debugStatement
     patterns := patterns
       ["\\bconsole\\.(?:log|debug|trace|dir|table)\\s*\\(", "(?:^|[^\\w.])debugger\\s*;?\\s*$"]
     languages := ecma
     message := "Debug output left in code"
     suggestion := "Remove the statement or use the project logger" },
   { descriptor := debugStatement
     patterns := patterns
       ["^\\s*print\\s*\\(", "\\bpdb\\.set_trace\\s*\\(", "(?:^|[^\\w.])breakpoint\\s*\\(\\s*\\)"]
     languages := [.python]
     message := "Debug output or breakpoint left in code"
     suggestion := "Remove the statement or use the logging module" },
   { descriptor := debugStatement
     patterns := patterns
       ["\\bSystem\\.(?:out|err)\\.print(?:ln|f)?\\s*\\(", "\\.printStackTrace\\s*\\(\\s*\\)"]
     languages := [.java, .kotlin]
     message := "Console output left in code"
     suggestion := "Use a logger instead of System.out" },
   { descriptor := debugStatement
     patterns := patterns ["\\bfmt\\.Print(?:ln|f)?\\s*\\(", "^\\s*println\\s*\\("]
     languages := [.go]
     message := "Console output left in code"
     suggestion := "Use the log package or return the value" },
   { descriptor := unsafeType
     patterns := patterns [":\\s*any\\b", "\\bas\\s+any\\b", "<any>"]
     languages := [.typescript]
     message := "Value typed as any"
     suggestion := "Use unknown or a precise type" },
   { descriptor := unsafeType
     patterns := patterns ["//\\s*@ts-(?:ignore|nocheck)\\b"]
     onRaw := true
     languages := ecma
     message := "Type checking suppressed with a ts directive"
     suggestion := "Fix the type error or use @ts-expect-error with a reason" },
   { descriptor := unsafeType
     patterns := patterns ["#\\s*type:\\s*ignore\\b"]
     onRaw := true
     languages := [.python]
     message := "Type checking suppressed with type: ignore"
     suggestion := "Fix the type error or narrow the ignore to a specific code" },
   { descriptor := unsafeType
     patterns := patterns ["\\binterface\\s*\\\x7b\\s*\\\x7d"]
     languages := [.go]
     message := "Empty interface discards static typing"
     suggestion := "Use a concrete type, a generic parameter or a narrow interface" },
   { descriptor := unsafeType
     patterns := patterns ["@SuppressWarnings\\(\\s*\"(?:unchecked|rawtypes)\""]
     onRaw := true
     languages := [.java]
     message := "Unchecked type warnings suppressed"
     suggestion := "Add type parameters instead of suppressing the warning" }]

def check (u : TextUnit) (content : String) : List Violation :=
  let lines := LinePair.ofContent content u.language
  let onLines := (LineRule.checkAll lineRules u lines).filter fun v =>
    !(u.isTest && v.rule == debugStatement.id)
  Violation.sortByLine
    (NamingCheck.check u lines ++ (if u.isTest then [] else magicNumbers u lines) ++
      longLines u lines ++ longFunctions u lines ++ onLines)

/-- The set of style rules. -/
def ruleSet : TextRuleSet where
  id := "style"
  category := .style
  rules := descriptors
  check := TextRuleSet.onContent check

end CodeAudit.Readability
