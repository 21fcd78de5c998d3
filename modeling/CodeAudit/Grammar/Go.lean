import CodeAudit.Syntax.Scan

/-!
The grammar of Go. A line break ends a statement, except inside parentheses, brackets and literals. In
the head of a control statement an opening brace starts its block and not a literal.
-/
namespace CodeAudit.Grammar.Go

open Syntax

/-- Whether line breaks are blanks, and whether a brace after a name starts a literal. -/
structure Mode where
  free : Bool := false
  literals : Bool := true

inductive Rule where
  | program | topLevel | importSpec | functionDecl | methodDecl | varDecl | varSpec | constDecl
  | constSpec | typeDecl | typeSpec
  | parameters | parameter | result | block | statements | statement | simple | ifTail | forHead
  | switchTail | selectTail | caseBody
  | type | typeName | structType | fieldDecl | interfaceType | interfaceElem | typeElem
  | funcSignature | typeArguments | typeParameters
  | expressions | expression | unary | chain | operand | arguments | literal | element
deriving DecidableEq, Repr

abbrev Expr := Peg Rule Mode

def lexis : Scan.Lexis where
  wordStart c := c == '_' || Text.isLetter c
  wordPart c := c == '_' || Text.isLetter c || Text.isDecimal c
  operators := ["<<=", ">>=", "&^=", "...", "&&", "||", "<-", "++", "--", "==", "!=", "<=", ">=",
    ":=", "+=", "-=", "*=", "/=", "%=", "&=", "|=", "^=", "<<", ">>", "&^", "+", "-", "*", "/", "%",
    "&", "|", "^", "!", "~", "<", ">", "=", ".", ":"].map String.toList
  reserved := ["break", "case", "chan", "const", "continue", "default", "defer", "else",
    "fallthrough", "for", "func", "go", "goto", "if", "import", "interface", "map", "package",
    "range", "return", "select", "struct", "switch", "type", "var"]

instance : Coe String Expr := ⟨Peg.spelled lexis⟩
instance : Coe Rule Expr := ⟨Peg.rule⟩

def isBlank (c : Char) : Bool := Text.isBlankChar c

def blanks (s : Source) (i : Nat) : Nat := Scan.skipBlanks isBlank Scan.slashComment? s i

def other (parts : List Expr) : Expr := Peg.other parts

def leaf (scan : Scanner) : Expr := .token .other scan

def name : Expr := .token .identifier (Scan.freeWord lexis)

def list (item : Expr) : Expr := Peg.listOf item ","

def opening : Expr := Peg.piece "\x7b"

def closing : Expr := Peg.piece "\x7d"

/-- Where line breaks count, none before the next token. -/
def sameLine : Expr := .step none fun mode s last =>
  if mode.free || !s.breaksBetween last (blanks s last) then some (mode, ⟨last, last⟩) else none

/-- A part in brackets, in which line breaks are blanks and literals are read. -/
def enclosed (parts : List Expr) : Expr := .under (fun _ => { free := true }) (other parts)

/-- A part in which line breaks count. -/
def lined (p : Expr) : Expr := .under (fun _ => {}) p

/-- The head of a control statement. -/
def head (p : Expr) : Expr := .under (fun _ => { literals := false }) p

/-- The end of a statement or declaration: a semicolon, a line break or the end of the text. -/
def terminator : Expr := .alt [";", .step none fun mode s last =>
  let next := blanks s last
  if s.breaksBetween last next || next = s.size then some (mode, ⟨last, last⟩) else none]

/-- Items with a terminator after each; before the closing bracket it may be missing. -/
def lines (item : Expr) : Expr := .many (.seq [item, .opt terminator])

def text : Expr := .alt [
  .token .string (Scan.quoted ['"'] false true), .token .string (Scan.quoted ['\x60'] true false)]

def literals : Expr := .alt [text, leaf (Scan.quoted ['\''] false true), leaf Scan.number]

def group (item : Expr) : Expr := .seq ["(", lined (lines item), ")"]

def binaryOperators : Expr := .seq [sameLine, Peg.operatorOf lexis ["||", "&&", "==", "!=", "<", "<=", ">", ">=",
  "+", "-", "|", "^", "*", "/", "%", "<<", ">>", "&", "&^"]]

def assignmentOperators : Expr := Peg.operatorOf lexis ["=", ":=", "+=", "-=", "*=", "/=", "%=", "&=", "|=", "^=",
  "<<=", ">>=", "&^="]

def bounds : Expr := .seq [":", .opt Rule.expression, .opt (.seq [":", .opt Rule.expression])]

def rules : Rule → Expr
  | .program => lines (.alt [Rule.topLevel, Peg.skipping lexis []])
  | .topLevel => .alt [
      ";",
      .node .packageDecl (.seq ["package", .field .name name]),
      .node .importDecl (.seq ["import", .alt [.node .importGroup (group Rule.importSpec), Rule.importSpec]]),
      Rule.functionDecl, Rule.methodDecl, Rule.statement]
  | .importSpec => .node .importSpec (.seq [.opt (.field .name (.alt [".", name])), .field .path text])
  | .functionDecl => .node .functionDecl (.seq ["func", .field .name name, .opt Rule.typeParameters,
      Rule.funcSignature, .opt (.seq [sameLine, .field .body Rule.block])])
  | .methodDecl => .node .functionDecl (.seq ["func", .field .receiver Rule.parameters, .field .name name,
      Rule.funcSignature, .opt (.seq [sameLine, .field .body Rule.block])])
  | .funcSignature => .seq [.field .parameters Rule.parameters, .opt Rule.result]
  | .varDecl => .node .declaration (.seq ["var", .alt [group Rule.varSpec, Rule.varSpec]])
  | .varSpec => .node .declarator (.seq [Peg.sepBy1 (.field .name name) ",", .alt [
      .seq [sameLine, "=", .field .value Rule.expressions],
      .seq [sameLine, Rule.type, .opt (.seq [sameLine, "=", .field .value Rule.expressions])]]])
  | .constDecl => .node .constDeclaration (.seq ["const", .alt [group Rule.constSpec, Rule.constSpec]])
  | .constSpec => .node .declarator (.seq [.field .name (Peg.sepBy1 name ","),
      .opt (.seq [sameLine, .opt Rule.type, sameLine, "=", .field .value Rule.expressions])])
  | .typeDecl => .node .typeGroup (.seq ["type", .alt [group Rule.typeSpec, Rule.typeSpec]])
  | .typeSpec => .alt [
      .node .typeAlias (.seq [.field .name name, .opt Rule.typeParameters, "=", .field .type Rule.type]),
      .node .typeSpec (.seq [.field .name name, Rule.typeParameters, .field .type Rule.type]),
      .node .typeSpec (.seq [.field .name name, .field .type Rule.type])]
  | .parameters => enclosed ["(", .alt [
      .seq [list (.seq [Rule.parameter, .ahead (.alt [",", ")"])]), ")"],
      .seq [list (.node .parameter (.seq [.opt "...", .field .type Rule.type])), ")"]]]
  | .parameter => .node .parameter (.seq [Peg.sepBy1 (.field .name name) ",", .opt "...",
      .field .type Rule.type])
  | .result => .seq [sameLine, .alt [Rule.parameters, Rule.type]]
  | .block => lined (.node .block (.seq [opening, .opt Rule.statements, closing]))
  | .statements => .node .statements (Peg.some (.alt [";", .seq [Rule.statement, .opt terminator],
      Peg.skipping lexis ['\x7d']]))
  | .statement => .alt [
      Rule.varDecl, Rule.constDecl, Rule.typeDecl,
      .node .spawn (.seq ["go", Rule.expression]),
      other ["defer", Rule.expression],
      other ["return", .opt (.seq [sameLine, Rule.expressions])],
      other [.alt ["break", "continue", "goto"], .opt (.seq [sameLine, name])],
      other ["fallthrough"],
      other ["if", Rule.ifTail],
      other ["for", head (.opt Rule.forHead), Rule.block],
      other ["switch", Rule.switchTail],
      other ["select", Rule.selectTail],
      Rule.block,
      .seq [other [name, ":"], .opt Rule.statement],
      Rule.simple]
  | .simple => other [.grow Rule.expressions [
      (.other, none, .seq [assignmentOperators, Rule.expressions]),
      (.other, none, .seq [sameLine, "<-", Rule.expression]),
      (.other, none, .seq [sameLine, Peg.operatorOf lexis ["++", "--"]])]]
  | .ifTail => .seq [
      head (.alt [.seq [.opt Rule.simple, ";", Rule.expression], Rule.expression]), Rule.block,
      .opt (.seq [sameLine, "else", .alt [other ["if", Rule.ifTail], Rule.block]])]
  | .forHead => .alt [
      other [.opt (.seq [Rule.expressions, .alt [":=", "="]]), "range", Rule.expression],
      .seq [.opt Rule.simple, ";", .opt Rule.expression, .alt [.seq [";", .opt Rule.simple], .seq []]],
      Rule.expression]
  | .switchTail =>
      let subject : Expr := .alt [
        .seq [.opt (.seq [Peg.sepBy1 name ",", ":="]), Rule.chain, ".", "(", "type", ")"],
        .seq [Rule.expressions, .notAhead (.alt [assignmentOperators, ";", "<-", "++", "--"])],
        .seq []]
      .seq [head (.alt [.seq [.opt Rule.simple, ";", subject], subject]),
        lined (other [opening, .many (.seq [
          .alt [other ["case", Peg.sepBy1 (.alt [.seq [Rule.expression, .ahead (.alt [",", ":"])], Rule.type]) ","],
            other ["default"]], Rule.caseBody]), closing])]
  | .selectTail =>
      lined (other [opening, .many (.seq [.alt [other ["case", Rule.simple], other ["default"]],
        Rule.caseBody]), closing])
  | .caseBody => .seq [":", .opt Rule.statements]
  | .type => .alt [
      Rule.structType, Rule.interfaceType,
      other ["*", Rule.type],
      other ["func", Rule.funcSignature],
      other ["map", enclosed ["[", Rule.type, "]"], Rule.type],
      other ["chan", .opt (.seq [sameLine, "<-"]), Rule.type],
      other ["<-", "chan", Rule.type],
      other [enclosed ["[", .opt (.alt ["...", Rule.expression]), "]"], sameLine, Rule.type],
      enclosed ["(", Rule.type, ")"],
      other [Rule.typeName, .opt (.seq [sameLine, Rule.typeArguments])]]
  | .typeName => .seq [name, .opt (.seq [".", name])]
  | .structType => .node .structType (.seq ["struct",
      lined (.node .fieldGroup (.seq [opening, .many (.alt [";", .seq [Rule.fieldDecl, .opt terminator]]), closing]))])
  | .fieldDecl =>
      let tag : Expr := .opt (.seq [sameLine, text])
      .node .field (.alt [
        .seq [Peg.sepBy1 (.field .name name) ",", sameLine, .field .type Rule.type, tag],
        .seq [.opt "*", .field .type (other [Rule.typeName, .opt (.seq [sameLine, Rule.typeArguments])]), tag]])
  | .interfaceType => .node .interfaceType (.seq ["interface",
      lined (.seq [opening, .many (.alt [";", .seq [Rule.interfaceElem, .opt terminator]]), closing])])
  | .interfaceElem => .alt [
      other [name, sameLine, Rule.funcSignature],
      .node .embeddedType (Peg.sepBy1 Rule.typeElem "|")]
  | .typeElem => .seq [.opt "~", Rule.type]
  | .typeArguments => enclosed ["[", Peg.sepBy1 Rule.type ",", .opt ",", "]"]
  | .typeParameters => enclosed ["[",
      Peg.sepBy1 (other [Peg.sepBy1 name ",", Peg.sepBy1 Rule.typeElem "|"]) ",", .opt ",", "]"]
  | .expressions => .grow Rule.expression [(.other, none, .seq [",", Rule.expression])]
  | .expression => .grow Rule.unary [(.other, none, .seq [binaryOperators, Rule.unary])]
  | .unary => .alt [
      other [Peg.operatorOf lexis ["+", "-", "!", "^", "*", "&", "<-", "~"], Rule.unary],
      Rule.chain]
  | .chain => .grow Rule.operand [
      (.member, some .object, .seq [sameLine, ".", .field .property name]),
      (.other, none, .seq [sameLine, ".", enclosed ["(", .notAhead "type", Rule.type, ")"]]),
      (.call, some .callee, .seq [sameLine, .field .arguments Rule.arguments]),
      (.other, none, .seq [sameLine, enclosed ["[", .alt [bounds, .seq [Rule.expression, .opt bounds]], "]"]]),
      (.call, some .callee, .seq [sameLine, Rule.typeArguments, sameLine, .field .arguments Rule.arguments]),
      (.other, none, .seq [sameLine, Rule.typeArguments]),
      (.other, none, .seq [sameLine, .step none fun mode _ last =>
        if mode.literals then some (mode, ⟨last, last⟩) else none, Rule.literal])]
  | .operand => .alt [
      name, literals,
      enclosed ["(", .alt [.seq [Rule.expression, ")"], .seq [Rule.type, ")"]]],
      other ["func", Rule.funcSignature, sameLine, Rule.block],
      .seq [.notAhead (.alt ["*", "("]), other [Rule.type, sameLine, .alt [
        Rule.literal, enclosed ["(", Rule.expression, .opt ",", ")"]]]]]
  | .arguments => enclosed ["(",
      list (.seq [.alt [.seq [Rule.expression, .ahead (.alt [",", ")", "..."])], Rule.type], .opt "..."]), ")"]
  | .literal => enclosed [opening,
      list (.seq [Rule.element, .opt (.seq [":", Rule.element])]), closing]
  | .element => .alt [Rule.literal, Rule.expression]

def grammar : Grammar Rule Mode where
  blanks _ := blanks
  rules := rules
  start := .program
  mode := {}
  last := {}

end CodeAudit.Grammar.Go
