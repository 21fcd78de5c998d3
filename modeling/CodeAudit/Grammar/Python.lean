import CodeAudit.Syntax.Scan

/-!
The grammar of Python. Blocks are found by indentation: a tab counts eight columns, a comment line
belongs to the block it is indented like, and inside brackets line breaks are blanks. Operators are
read without precedence.
-/
namespace CodeAudit.Grammar.Python

open Syntax

/-- Whether line breaks are blanks, and the indentations of the open blocks, innermost first. -/
structure Mode where
  free : Bool := false
  indents : List Nat := [0]

inductive Rule where
  | program | statement | simple | suite | compound | clauses | definition | classDef | decorated
  | matchCase | casePattern
  | importNames | importFromNames | dottedName
  | expressionStatement | yielded | target | targets | value
  | parameters | parameter | lambdaParameters
  | expressions | expression | starred | conditional | binary | unary | chain | atom | arguments
  | comprehension | subscript | typeParameters | string | interpolation | formatSpec
deriving DecidableEq, Repr

abbrev Expr := Peg Rule Mode

def lexis : Scan.Lexis where
  wordStart c := c == '_' || Text.isIdStart c
  wordPart c := c == '_' || Text.isIdContinue c
  operators := ["**=", "//=", ">>=", "<<=", "...", "->", ":=", "==", "!=", "<>", "<=", ">=", "<<",
    ">>", "**", "//", "+=", "-=", "*=", "/=", "%=", "@=", "&=", "|=", "^=", "+", "-", "*", "/", "%",
    "@", "&", "|", "^", "~", "<", ">", "=", ".", ":"].map String.toList
  reserved := ["and", "as", "assert", "async", "await", "break", "class", "continue", "def", "del",
    "elif", "else", "except", "finally", "for", "from", "global", "if", "import", "in", "is", "lambda",
    "nonlocal", "not", "or", "pass", "raise", "return", "try", "while", "with", "yield", "True",
    "False", "None"]

instance : Coe String Expr := ⟨Peg.spelled lexis⟩
instance : Coe Rule Expr := ⟨Peg.rule⟩

def isBlank (c : Char) : Bool := Text.isBlankChar c || ['\uFEFF', '\u2060', '\u200B'].contains c

/-- The end of a comment, or of a line break that a backslash takes away. -/
def comment? (s : Source) (i : Nat) : Option Nat :=
  match s.get? i with
  | some '#' => some (s.lineEnd i)
  | some '\\' =>
    let j := if s.get? (i + 1) == some '\r' then i + 2 else i + 1
    if s.get? j == some '\n' then some (j + 1) else none
  | _ => none

def blanks (mode : Mode) (s : Source) (i : Nat) : Nat :=
  Scan.skipBlanks (fun c => isBlank c && (mode.free || c != '\n')) comment? s i

/-- The next line that is not blank: the indentation of the first comment line before it, its own
indentation, and where it starts. -/
structure NextLine where
  comment : Option Nat
  indent : Nat
  start : Nat

/-- Looks for the next line from a place behind which only blanks and comments may stand before the
line break. -/
def nextLine (s : Source) (broken : Bool) (comment : Option Nat) (indent i : Nat) : Option NextLine :=
  if h : i < s.chars.size then
    let c := s.chars[i]
    if c == '\n' then nextLine s true comment 0 (i + 1)
    else if c == ' ' then nextLine s broken comment (indent + 1) (i + 1)
    else if c == '\t' then nextLine s broken comment (indent + 8) (i + 1)
    else if c == '\r' || c == '\x0c' then nextLine s broken comment 0 (i + 1)
    else if c == '#' && broken then
      nextLine s broken (comment.or (some indent)) 0 (max (s.lineEnd i) (i + 1))
    else if c == '\\' && (comment? s i).isSome then
      nextLine s broken comment indent (max ((comment? s i).getD i) (i + 1))
    else if broken then some ⟨comment, indent, i⟩
    else none
  else some ⟨comment, 0, s.chars.size⟩
termination_by s.chars.size - i

def nextLine? (s : Source) (i : Nat) : Option NextLine := nextLine s false none 0 i

/-- The end of a comment on the rest of the line, else the place itself. -/
def lineRest (s : Source) (i : Nat) : Nat :=
  let j := s.skipWhile (fun c => c == ' ' || c == '\t' || c == '\x0c') i
  if s.get? j == some '#' then s.lineEnd j else i

def current (mode : Mode) : Nat := mode.indents.headD 0

/-- The end of a statement: the rest of the line holds at most a comment. -/
def newline : Expr := .step (some (.token "newline")) fun mode s last =>
  let i := lineRest s last
  (nextLine? s i).map fun _ => (mode, ⟨i, i⟩)

/-- Opens a block that is indented further than the one around it. -/
def indent : Expr := .step (some (.token "indent")) fun mode s last =>
  let i := lineRest s last
  (nextLine? s i).bind fun line =>
    if current mode < line.indent then
      some ({ mode with indents := line.indent :: mode.indents }, ⟨i, i⟩)
    else none

/-- Goes to a line of the current block; at the start of the text the block is open already. -/
def lineStart : Expr := .step none fun mode s last =>
  let line := if last = s.start then nextLine s true none 0 last else nextLine? s last
  line.bind fun line =>
    if line.start < s.size && current mode ≤ line.indent then some (mode, ⟨line.start, line.start⟩)
    else none

/-- Where the current block closes: behind the comment lines that are indented like it. -/
def closing (s : Source) (depth fuel i : Nat) : Option Nat :=
  match fuel with
  | 0 => none
  | fuel + 1 =>
    (nextLine? s i).bind fun line =>
      if depth ≤ line.indent then none
      else if line.comment.any (depth ≤ ·) then
        closing s depth fuel (s.lineEnd (s.skipWhile (· != '#') i))
      else some i

def dedent : Expr := .step (some (.token "dedent")) fun mode s last =>
  (closing s (current mode) (s.size + 1) last).map fun i =>
    ({ mode with indents := mode.indents.tail }, ⟨i, i⟩)

def other (parts : List Expr) : Expr := Peg.other parts

def leaf (scan : Scanner) : Expr := .token .other scan

def name : Expr := .token .identifier (Scan.freeWord lexis)

/-- A bracketed part, in which line breaks are blanks. -/
def enclosed (parts : List Expr) : Expr :=
  .under (fun mode => { mode with free := true }) (other parts)

def list (item : Expr) : Expr := Peg.listOf item ","

def quotes : List (List Char) :=
  [['"', '"', '"'], ['\'', '\'', '\''], ['"'], ['\'']]

/-- The letters in front of a literal, and whether they make it a formatted one. -/
def prefixEnd (s : Source) (i : Nat) : Nat := s.skipWhile (fun c => "rRbBuUfFtT".toList.contains c) i

def isFormatted (s : Source) (i stop : Nat) : Bool :=
  (s.text ⟨i, stop⟩).toList.any fun c => "fFtT".toList.contains c

def plainString (quote : List Char) : Scanner := fun s i =>
  let j := prefixEnd s i
  if j ≤ i + 2 && !isFormatted s i j then Scan.quoted quote (quote.length == 3) true s j else none

def formattedStart (quote : List Char) : Scanner := fun s i =>
  let j := prefixEnd s i
  if j ≤ i + 2 && isFormatted s i j && s.hasAt j quote then some (j + quote.length) else none

/-- The text of a formatted literal up to a substitution or the closing quote. -/
def formattedRest (quote : List Char) (s : Source) (i : Nat) : Nat :=
  if h : i < s.chars.size then
    let c := s.chars[i]
    if s.hasAt i quote then i
    else if c == '\\' then formattedRest quote s (i + 2)
    else if c == '\x7b' then if s.get? (i + 1) == some c then formattedRest quote s (i + 2) else i
    else formattedRest quote s (i + 1)
  else i
termination_by s.chars.size - i

def nonEmpty (stop : Source → Nat → Nat) : Scanner := fun s i =>
  let j := min (stop s i) s.size
  if i < j then some j else none

def formattedString (quote : List Char) : Expr :=
  .seq [.token (.token "quote") (formattedStart quote),
    .many (.alt [Peg.glued .other (nonEmpty (formattedRest quote)), Rule.interpolation]),
    Peg.glued (.token "quote") (Scan.exact quote)]

def binaryOperators : Expr := .alt [Peg.operatorOf lexis ["+", "-", "*", "/", "%", "@", "&", "|", "^",
  "**", "//", "<<", ">>", "<", ">", "<=", ">=", "==", "!=", "<>"],
  "and", "or", .seq ["not", "in"], "in", .seq ["is", "not"], "is"]

def assignmentOperators : Expr := Peg.operatorOf lexis ["+=", "-=", "*=", "/=", "%=", "@=", "&=", "|=", "^=",
  "**=", "//=", "<<=", ">>="]

def block (word : Expr) (parts : List Expr) : Expr := other [word, .seq parts, ":", Rule.suite]

/-- A later clause of a compound statement, on a line of its own. -/
def clause (word : Expr) (parts : List Expr) : Expr := .seq [lineStart, block word parts]

/-- Passes over the rest of a line that nothing else can be made of. -/
def skippedLine : Expr := .repair (leaf fun s i =>
  let j := s.lineEnd i
  if i < j then some j else none)

def rules : Rule → Expr
  | .program => .many (.seq [lineStart, .alt [Rule.statement, skippedLine]])
  | .statement => .alt [Rule.compound, Rule.simple]
  | .simple =>
      let one : Expr := .alt [
        .node .importDecl (.seq ["import", Rule.importNames]),
        other ["from", "__future__", "import", Rule.importFromNames],
        .node .importFrom (.seq ["from",
          .field .source (.alt [other [Peg.some (.alt ["...", "."]), .opt Rule.dottedName], Rule.dottedName]),
          "import", .alt [.node .importAll "*", Rule.importFromNames]]),
        .node .pass "pass",
        other [.alt ["break", "continue"]],
        other ["return", .opt Rule.expressions],
        other ["raise", .opt Rule.expressions, .opt (.seq ["from", Rule.expression])],
        other ["assert", Peg.sepBy1 Rule.expression ","],
        other ["del", Rule.expressions],
        other [.alt ["global", "nonlocal"], Peg.sepBy1 name ","],
        other ["type", Rule.expression, "=", Rule.expression],
        .seq [Rule.expressionStatement, .ahead (.alt [";", newline])],
        other ["print", .opt ">>", Peg.sepBy1 Rule.expression ",", .opt ","],
        other ["exec", .alt [Rule.string, name], .opt (.seq ["in", Peg.sepBy1 Rule.expression ","])]]
      .seq [one, .many (.seq [";", one]), .opt ";", newline]
  | .suite => .alt [
      .seq [indent,
        .field .body (.node .block (.seq [.many (.seq [lineStart, .alt [Rule.statement, skippedLine]]),
          dedent]))],
      .field .body (.node .block Rule.simple),
      .field .body (.node .block newline)]
  | .compound => .alt [
      other [block "if" [Rule.expression], .many (clause "elif" [Rule.expression]), .opt (clause "else" [])],
      other [.opt "async", block "for" [Rule.targets, "in", Rule.expressions], .opt (clause "else" [])],
      other [block "while" [Rule.expression], .opt (clause "else" [])],
      other [block "try" [],
        .many (clause "except" [.opt "*", .opt (.seq [Rule.expressions, .opt (.seq ["as", name])])]),
        .opt (clause "else" []), .opt (clause "finally" [])],
      other [.opt "async", block "with" [Rule.clauses]],
      Rule.definition, Rule.classDef, Rule.decorated,
      other ["match", Peg.sepBy1 Rule.starred ",", .opt ",", ":", .alt [
        .seq [indent, .node .block (.seq [.many (.seq [lineStart, Rule.matchCase]), dedent])], newline]]]
  | .clauses =>
      let item : Expr := other [Rule.expression, .opt (.seq ["as", Rule.starred])]
      .alt [.seq [enclosed ["(", Peg.sepBy1 item ",", .opt ",", ")"], .ahead ":"], Peg.sepBy1 item ","]
  | .definition => .node .functionDecl (.seq [.opt "async", "def", .field .name name,
      .opt Rule.typeParameters, .field .parameters Rule.parameters,
      .opt (.seq ["->", Rule.expression]), ":", Rule.suite])
  | .classDef => .node .classDecl (.seq ["class", .field .name name, .opt Rule.typeParameters,
      .opt (.field .superclass Rule.arguments), ":", Rule.suite])
  | .decorated => .node .decorated (.seq [
      Peg.some (.seq [.node .decorator (.seq ["@", Rule.expression, newline]), lineStart]),
      .field .definition (.alt [Rule.definition, Rule.classDef])])
  | .matchCase => other ["case", Peg.sepBy1 Rule.casePattern ",", .opt ",",
      .opt (.seq ["if", Rule.expression]), ":", Rule.suite]
  | .casePattern =>
      let dotted : Expr := Peg.sepBy1 name "."
      let signed : Expr := .seq [.opt "-", leaf Scan.number]
      let field : Expr := .alt [.seq [name, "=", Rule.casePattern], Rule.casePattern]
      let key : Expr := .alt [Rule.string, signed, dotted, "None", "True", "False"]
      let one : Expr := .alt [
        .seq ["*", name], .seq ["**", name],
        .seq [dotted, .opt (enclosed ["(", list field, ")"])],
        .seq [signed, .opt (.seq [.alt ["+", "-"], leaf Scan.number])],
        Rule.string, "None", "True", "False",
        enclosed ["(", list Rule.casePattern, ")"], enclosed ["[", list Rule.casePattern, "]"],
        enclosed [Peg.piece "\x7b", list (.alt [.seq ["**", name], .seq [key, ":", Rule.casePattern]]),
          Peg.piece "\x7d"]]
      other [Peg.sepBy1 one "|", .opt (.seq ["as", name])]
  | .importNames =>
      let aliased : Expr := .node .aliased
        (.seq [.field .name Rule.dottedName, "as", .field .alias name])
      Peg.sepBy1 (.field .name (.alt [aliased, Rule.dottedName])) ","
  | .importFromNames => .alt [
      .under (fun mode => { mode with free := true })
        (.seq ["(", Rule.importNames, .opt ",", ")"]),
      .seq [Rule.importNames, .opt ","]]
  | .dottedName => other [Peg.sepBy1 name "."]
  | .expressionStatement => .node .expressionStatement (.alt [Rule.yielded,
      .grow Rule.expressions [
        (.assignment, some .left, .seq ["=", .field .right Rule.value]),
        (.assignment, some .left,
          .seq [":", .field .type Rule.expression, .opt (.seq ["=", .field .right Rule.value])]),
        (.other, none, .seq [assignmentOperators, Rule.value])]])
  | .yielded => other ["yield", .alt [.seq ["from", Rule.expression], .opt Rule.expressions]]
  | .target => .alt [other ["*", Rule.chain], Rule.chain]
  | .targets => .grow Rule.target [(.other, none, .seq [",", .opt Rule.target])]
  | .value => .alt [Rule.yielded, .grow Rule.expressions [
      (.assignment, some .left, .seq ["=", .field .right Rule.value]),
      (.other, none, .seq [assignmentOperators, Rule.value])]]
  | .parameters => enclosed ["(", list Rule.parameter, ")"]
  | .parameter =>
      let type : Expr := .opt (.seq [":", .alt [other ["*", Rule.expression], Rule.expression]])
      let tuple : Expr := enclosed ["(", list Rule.target, ")"]
      .node .parameter (.alt [
        .seq [.alt ["**", "*"], .field .name name, type],
        "*", "/",
        .seq [.field .name name, type, .opt (.seq ["=", Rule.expression])],
        .seq [tuple, .opt (.seq ["=", Rule.expression])]])
  | .lambdaParameters => other [list (other [.alt [
      .seq [.alt ["**", "*"], name], "*", "/", .seq [name, .opt (.seq ["=", Rule.expression])],
      enclosed ["(", list Rule.target, ")"]]])]
  | .expressions => .grow Rule.starred [(.other, none, .seq [",", .opt Rule.starred])]
  | .starred => .alt [other [.alt ["**", "*"], Rule.binary], Rule.expression]
  | .expression => .alt [
      .node .lambda (.seq ["lambda", .opt Rule.lambdaParameters, ":", Rule.expression]),
      other [name, ":=", Rule.expression],
      Rule.conditional]
  | .conditional => .grow Rule.binary
      [(.other, none, .seq ["if", Rule.binary, "else", Rule.expression])]
  | .binary => .grow Rule.unary [(.other, none, .seq [binaryOperators, Rule.unary])]
  | .unary => .alt [
      other [.alt ["not", Peg.operatorOf lexis ["-", "+", "~"]], Rule.unary],
      .grow (.alt [.node .await (.seq ["await", Rule.chain]), Rule.chain])
        [(.other, none, .seq ["**", Rule.unary])]]
  | .chain => .grow Rule.atom [
      (.member, some .object, .seq [".", .field .property (.token .identifier (Scan.anyWord lexis))]),
      (.call, some .callee, .field .arguments Rule.arguments),
      (.other, some .value, Rule.subscript)]
  | .atom =>
      let entry : Expr := other [Rule.starred, .opt (.seq [":", Rule.expression])]
      let items (item : Expr) : Expr := .opt (.seq [item,
        .alt [Peg.some Rule.comprehension, .seq [.many (.seq [",", item]), .opt ","]]])
      .alt [Rule.string, name, leaf Scan.number,
        .node .ellipsis "...",
        other [.alt ["True", "False", "None"]],
        enclosed ["(", .alt [Rule.yielded, items Rule.starred], ")"],
        enclosed ["[", items Rule.starred, "]"],
        enclosed [Peg.piece "\x7b", items entry, Peg.piece "\x7d"]]
  | .arguments =>
      let one : Expr := .alt [
        .node .keywordArgument (.seq [.field .name (.token .identifier (Scan.anyWord lexis)), "=",
          .field .value Rule.expression]),
        .seq [Rule.starred, .many Rule.comprehension]]
      enclosed ["(", list one, ")"]
  | .comprehension => .alt [
      other [.opt "async", "for", Rule.targets, "in", .alt [Rule.binary, Rule.expression]],
      other ["if", Rule.expression]]
  | .subscript =>
      let bounds : Expr := .seq [":", .opt Rule.expression, .opt (.seq [":", .opt Rule.expression])]
      enclosed ["[", list (other [.alt [bounds, .seq [Rule.starred, .opt bounds]]]), "]"]
  | .typeParameters => enclosed ["[", list (other [.opt (.alt ["**", "*"]), Rule.expression,
      .opt (.seq [":", Rule.expression]), .opt (.seq ["=", Rule.expression])]), "]"]
  | .string => .node .string (Peg.some (.alt
      (quotes.map (fun q => .token .string (plainString q))
        ++ quotes.map fun q => .node .string (formattedString q))))
  | .interpolation => .under (fun mode => { mode with free := true }) (other [
      Peg.glued (.token "\x7b") (Scan.exact ['\x7b']),
      .alt [Rule.yielded, Rule.expressions], .opt "=",
      .opt (other [Peg.piece "!", leaf (Scan.anyWord lexis)]),
      .opt Rule.formatSpec, Peg.piece "\x7d"])
  | .formatSpec => other [Peg.piece ":", .many (.alt [
      Peg.glued .other (nonEmpty fun s i => s.skipWhile (fun c => c != '\x7b' && c != '\x7d') i),
      Rule.interpolation])]

def grammar : Grammar Rule Mode where
  blanks := blanks
  rules := rules
  start := .program
  mode := {}
  last := { free := true }

def isComment (s : Source) (i : Nat) : Option Nat :=
  if s.get? i == some '#' then some (s.lineEnd i) else none

end CodeAudit.Grammar.Python
