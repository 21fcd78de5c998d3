import CodeAudit.Analysis.Project
import CodeAudit.Count
import CodeAudit.Lexical.Mask
import CodeAudit.Text.Category

/-!
Cyclomatic complexity: one more than the number of decisions in the masked text of a function.
Functions inside a function are measured on their own. Long files are reported too.
-/
namespace CodeAudit.Complexity

def branchWords : List String := ["if", "elif", "for", "while", "case", "catch", "except"]

def booleanWords : List String := ["and", "or"]

/-- How many whole words of a text are in a list. -/
def countWords (words : List String) (text : List Char) : Nat :=
  (Text.runsOutside (fun c => !Text.isWord c) text).countP fun w => words.contains (String.ofList w)

/-- How many doubled operator characters there are, from left to right without overlap. -/
def countOperators : List Char → Nat
  | a :: b :: rest =>
    if a = b ∧ (a = '&' ∨ a = '|' ∨ a = '?') then countOperators rest + 1
    else countOperators (b :: rest)
  | _ => 0

/-- After such a character a question mark chooses nothing: optional markers, optional access,
wildcards. -/
def marksOptional (next : Char) : Bool := ['.', '?', ':', ')', ',', '>', '='].contains next

/-- Question marks that choose between two values; `before` is the text so far, the last character
first. -/
def countChoices (before : List Char) : List Char → Nat
  | [] => 0
  | c :: rest =>
    let choosing := c = '?' ∧ !(rest.head?.any marksOptional) ∧ before.head? ≠ some '?' ∧
      !((before.find? fun b => !Text.isBlankChar b).any fun b => ['<', ',', '('].contains b)
    countChoices (c :: before) rest + if choosing then 1 else 0

/-- Complexity of masked text. An `else` is no decision of its own. -/
def ofMasked (language : Language) (masked : String) : Nat :=
  let text := masked.toList
  1 + countWords branchWords text + countOperators text +
    if language = .python then countWords booleanWords text else countChoices [] text

def severity (complexity : Nat) : Severity :=
  if 30 < complexity then .high else if 20 < complexity then .medium else .low

structure FunctionRecord where
  file : String
  name : String
  className : Option String
  line : Nat
  lineCount : Nat
  complexity : Nat
deriving DecidableEq, Repr

structure FileRecord where
  file : String
  lineCount : Nat
  functionCount : Nat
  average : Float
  maximum : Nat

structure Report where
  functions : List FunctionRecord := []
  files : List FileRecord := []

/-- Whether a line, counted from zero, belongs to a function that begins below the first line of
the function around it. -/
def isNested (function : AstNode) (line : Nat) : Bool :=
  function.nodes.tail.any fun inner =>
    inner.kind == .function && function.location.startLine < inner.location.startLine &&
      inner.location.startLine - 1 ≤ line && line < inner.location.endLine

/-- The lines of a function without those of the functions in it. -/
def functionText (lines : List String) (function : AstNode) : String :=
  let start := function.location.startLine - 1
  let own := (lines.zipIdx.take function.location.endLine).drop start
  Text.join "\n" ((own.filter fun l => !isNested function l.2).map (·.1))

def displayName (function : AstNode) : String :=
  let name := function.name.getD anonymousName
  match function.className? with
  | some c => c ++ "." ++ name
  | none => name

def functionRecord (tree : AstFile) (lines : List String) (function : AstNode) : FunctionRecord where
  file := tree.path
  name := function.name.getD anonymousName
  className := function.className?
  line := function.location.startLine
  lineCount := function.lineCount
  complexity := ofMasked tree.language (functionText lines function)

def functionFinding (threshold : Nat) (function : AstNode) (complexity : Nat) : Finding :=
  let name := displayName function
  ((Finding.new .highComplexity
      s!"Function '{name}' has cyclomatic complexity {complexity} (threshold {threshold})"
      (severity complexity) function.location).withMetadata "complexity" (.nat complexity)
    |>.withMetadata "threshold" (.nat threshold)).withMetadata "function" (.str name)

def fileFinding (limit : Nat) (path : String) (count : Nat) : Finding :=
  (Finding.new .fileTooLong s!"File has {count} lines (limit {limit})"
      (if limit * 2 < count then .medium else .low) ⟨path, 1, 1, count, 1⟩
    |>.withMetadata "lineCount" (.nat count)).withMetadata "limit" (.nat limit)

def fileRecord (path : String) (lineCount : Nat) (scores : List Nat) : FileRecord where
  file := path
  lineCount := lineCount
  functionCount := scores.length
  average := if scores.isEmpty then 0 else (total scores).toFloat / scores.length.toFloat
  maximum := scores.foldl max 0

/-- What one tree with content adds to the report. -/
def measure (threshold limit : Nat) (content : String) (tree : AstFile) : Analysis Report :=
  let count := (Text.lines content).length
  let long := if limit < count then [fileFinding limit tree.path count] else []
  if tree.hasError then ⟨{}, long⟩
  else
    let lines := Text.lines (Lexical.mask tree.language content)
    let records := tree.functions.map fun f => (f, functionRecord tree lines f)
    let high := records.filter fun (_, r) => threshold < r.complexity
    { report := ⟨records.map (·.2), [fileRecord tree.path count (records.map (·.2.complexity))]⟩
      findings := long ++ high.map fun (f, r) => functionFinding threshold f r.complexity }

/-- Measures all functions of the trees whose content is known. -/
def analyze (threshold limit : Nat) (p : Project) : Analysis Report :=
  p.trees.foldl (fun all tree =>
    match p.content? tree.path with
    | none => all
    | some content =>
      let one := measure threshold limit content tree
      ⟨⟨all.report.functions ++ one.report.functions, all.report.files ++ one.report.files⟩,
        all.findings ++ one.findings⟩) ⟨{}, []⟩

end CodeAudit.Complexity
