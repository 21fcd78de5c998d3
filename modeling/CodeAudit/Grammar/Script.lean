import CodeAudit.Syntax.Scan

/-!
The grammar of ECMAScript and its typed and markup extensions. A statement may end at a line break if
what follows cannot continue it. Operators are read without precedence, since only the order of the
operands matters to what is built from the trees.
-/
namespace CodeAudit.Grammar.Script

open Syntax

/-- Which extensions of the language are read. -/
structure Dialect where
  typed : Bool
  markup : Bool
deriving DecidableEq, Repr

/-- The second branch of a conditional may begin like the return type of an arrow function; then the
first branch is read again without such types. -/
structure Mode where
  bareArrows : Bool := false

inductive Rule where
  | program | statement | block | variables | declarator | forHeader | switchBody
  | importDecl | importClause | importSpecifier | importAttributes
  | exportDecl | exportSpecifier
  | declaration | functionDecl | classDecl | classTail | heritage | classBody | member | decorator
  | enumDecl | interfaceDecl | typeAlias | namespaceDecl | ambient | importAlias
  | propertyName | method | callSignature | parameters | binding
  | expressions | expression | arrow | conditional | binary | unary | suffixed | chain | target
  | primary | arguments | template | object | array | markup | markupName | markupAttribute
  | markupChild
  | type | returnType | union | typeOperand | typePostfix | typePrimary | typeMember | typeBody
  | typeArguments | typeParameters
deriving DecidableEq, Repr

abbrev Expr := Peg Rule Mode

def isBlank (c : Char) : Bool :=
  Text.isBlankChar c || ['\uFEFF', '\u2060', '\u200B'].contains c

def isWordStart (c : Char) : Bool :=
  c.isAlpha || c == '_' || c == '$' || c == '\\' || (128 ≤ c.toNat && !isBlank c)

def lexis : Scan.Lexis where
  wordStart := isWordStart
  wordPart c := isWordStart c || c.isDigit
  operators := [">>>=", "...", "===", "!==", ">>>", "<<=", ">>=", "**=", "&&=", "||=", "??=", "=>",
    "==", "!=", "<=", ">=", "<<", ">>", "++", "--", "+=", "-=", "*=", "**", "/=", "%=", "&=", "|=",
    "^=", "&&", "||", "??", "?.", "+", "-", "*", "/", "%", "&", "|", "^", "!", "~", "<", ">", "=",
    "?", ".", ":"].map String.toList
  reserved := ["break", "case", "catch", "class", "const", "continue", "debugger", "default",
    "delete", "do", "else", "enum", "export", "extends", "false", "finally", "for", "function", "if",
    "import", "in", "instanceof", "new", "null", "return", "super", "switch", "this", "throw", "true",
    "try", "typeof", "var", "void", "while", "with"]

instance : Coe String Expr := ⟨Peg.spelled lexis⟩
instance : Coe Rule Expr := ⟨Peg.rule⟩

def blanks (s : Source) (i : Nat) : Nat := Scan.skipBlanks isBlank Scan.slashComment? s i

/-- Whether a statement that stopped at `last` may end without a semicolon: at the end of the text, in
front of a closing brace, or at a line break unless the next character can only continue it. -/
def endsAt (typed : Bool) (s : Source) (last : Nat) : Bool :=
  let next := blanks s last
  match s.get? next with
  | none => true
  | some c =>
    if c == '}' then true
    else if !s.breaksBetween last next then false
    else if "\x60,:;*%><=?^|&/".toList.contains c then false
    else if c == '(' || c == '[' then typed
    else if c == '.' then !typed && s.isAt (next + 1) Char.isDigit
    else if c == '+' || c == '-' then s.get? (next + 1) == some c
    else if c == '!' then s.get? (next + 1) != some '='
    else (Scan.oneOf lexis ["in", "instanceof"] s next).isNone

def other (parts : List Expr) : Expr := Peg.other parts

def leaf (scan : Scanner) : Expr := .token .other scan

def name : Expr := .token .identifier (Scan.freeWord lexis)

/-- Any word, reserved or not, as after a dot. -/
def anyName : Expr := .token .identifier (Scan.anyWord lexis)

def privateName : Expr := .token .identifier fun s i =>
  if s.get? i == some '#' then Scan.anyWord lexis s (i + 1) else none

def stringLiteral : Expr :=
  .alt [.token .string (Scan.quoted ['"'] false true), .token .string (Scan.quoted ['\''] false true)]

def number : Expr := leaf Scan.number

/-- No line break before the next token. -/
def sameLine : Expr := .step none fun mode s last =>
  if s.breaksBetween last (blanks s last) then none else some (mode, ⟨last, last⟩)

def semicolon (d : Dialect) : Expr := .alt [";", .step none fun mode s last =>
  if endsAt d.typed s last then some (mode, ⟨last, last⟩) else none]

/-- A bracketed part, in which arrow functions may have return types again. -/
def enclosed (parts : List Expr) : Expr := .under (fun _ => {}) (other parts)

def list (item : Expr) : Expr := Peg.listOf item ","

/-- Something that only a dialect with types has. -/
def typedOnly (d : Dialect) (p : Expr) : Expr := if d.typed then p else .alt []

def typeMark (d : Dialect) : Expr := typedOnly d (.opt (other [":", Rule.type]))

def optTyped (d : Dialect) (p : Expr) : Expr := if d.typed then .opt p else .seq []

def nameStart : Expr := .alt [anyName, privateName, stringLiteral, number, "[", "*"]

/-- A word that stands in front of a member's name. -/
def modifier (w : String) : Expr := .seq [w, .ahead nameStart]

def visibility : Expr :=
  .seq [.node .visibility (.alt ["public", "private", "protected"]), .ahead (.alt [nameStart, Peg.piece "\x7b"])]

def memberModifiers (d : Dialect) : Expr :=
  if d.typed then
    .many (.alt ([visibility] ++ ["static", "override", "readonly", "declare", "abstract", "accessor"].map modifier))
  else .many (.alt (["static", "accessor"].map modifier))

def asyncMark : Expr := .seq ["async", sameLine, .ahead nameStart]

def accessorMark : Expr :=
  .opt (.alt [.seq [.alt ["get", "set"], .notAhead "*", .ahead nameStart], "*"])

/-- The end of a regular expression that starts at a slash. -/
def regexRest (s : Source) (inClass : Bool) (i : Nat) : Option Nat :=
  if h : i < s.chars.size then
    let c := s.chars[i]
    if c == '\n' then none
    else if c == '\\' then regexRest s inClass (i + 2)
    else if c == '[' then regexRest s true (i + 1)
    else if c == ']' then regexRest s false (i + 1)
    else if c == '/' && !inClass then some (s.skipWhile lexis.wordPart (i + 1))
    else regexRest s inClass (i + 1)
  else none
termination_by s.chars.size - i

def regex : Scanner := fun s i =>
  if s.get? i == some '/' && !s.isAt (i + 1) (fun c => c == '/' || c == '*') then
    regexRest s false (i + 1)
  else none

/-- The text of a template up to a substitution or the closing quote. -/
def fragmentRest (s : Source) (i : Nat) : Nat :=
  if h : i < s.chars.size then
    let c := s.chars[i]
    if c == '\x60' || (c == '$' && s.get? (i + 1) == some '\x7b') then i
    else if c == '\\' then fragmentRest s (i + 2)
    else fragmentRest s (i + 1)
  else i
termination_by s.chars.size - i

/-- At least one character up to the stop found by `stop`. -/
def nonEmpty (stop : Source → Nat → Nat) : Scanner := fun s i =>
  let j := min (stop s i) s.size
  if i < j then some j else none

def templateOf (inner : Expr) : Expr :=
  .node .template (.seq [Peg.piece "\x60",
    .many (.alt [Peg.glued .other (nonEmpty fragmentRest),
      other [Peg.glued (.token "$") (Scan.exact ['$', '\x7b']), .under (fun _ => {}) inner, Peg.piece "\x7d"]]),
    Peg.glued (.token "\x60") (Scan.exact ['\x60'])])

def markupText : Scanner := nonEmpty fun s i => s.skipWhile (fun c => c != '<' && c != '\x7b') i

/-- A tag or attribute name, with its dashes, dots and colons. -/
def markupWord : Scanner := fun s i =>
  if s.isAt i lexis.wordStart then
    some (s.skipWhile (fun c => lexis.wordPart c || c == '-' || c == '.' || c == ':') i)
  else none

def hashbang : Scanner := fun s i => if s.hasAt i ['#', '!'] then some (s.lineEnd i) else none

def binaryOperators : Expr := .alt [Peg.operatorOf lexis ["||", "&&", "??", "|", "^", "&", "==", "!=",
  "===", "!==", "<", ">", "<=", ">=", "<<", ">>", ">>>", "+", "-", "*", "/", "%", "**"],
  "instanceof", "in"]

def assignmentOperators : Expr := Peg.operatorOf lexis ["=", "+=", "-=", "*=", "/=", "%=", "**=", "<<=",
  ">>=", ">>>=", "&=", "|=", "^=", "&&=", "||=", "??="]

def prefixOperators : Expr :=
  .alt [Peg.operatorOf lexis ["!", "~", "+", "-", "++", "--"], "typeof", "void", "delete"]

def memberSuffix : Tag × Option Role × Expr :=
  (.member, some .object, .seq [.alt [".", "?."], .field .property (.alt [anyName, privateName])])

def subscriptSuffix : Tag × Option Role × Expr :=
  (.other, some .object, .seq [.opt "?.", enclosed ["[", Rule.expressions, "]"]])

def callSuffix (d : Dialect) : Tag × Option Role × Expr :=
  (.call, some .callee,
    .seq [.opt "?.", optTyped d Rule.typeArguments, .field .arguments Rule.arguments])

def nonNullSuffix (d : Dialect) : Tag × Option Role × Expr :=
  (.other, none, typedOnly d (.seq [sameLine, "!"]))

def suffixes (d : Dialect) : List (Tag × Option Role × Expr) :=
  [memberSuffix, callSuffix d, subscriptSuffix,
   (.call, some .callee, .field .arguments Rule.template), nonNullSuffix d,
   (.other, none, typedOnly d (.seq [Rule.typeArguments, .ahead (.alt [";", ")", "]", ",", Peg.piece "\x7d"])]))]

def signatureEnd (d : Dialect) : Expr := .alt [",", semicolon d]

/-- The parts of a method up to its parameters. -/
def methodHead (d : Dialect) : Expr :=
  .seq [memberModifiers d, .opt asyncMark, accessorMark, .field .name Rule.propertyName,
    optTyped d "?"]

def rules (d : Dialect) : Rule → Expr
  | .program => .seq [.opt (leaf hashbang), .many (.alt [Rule.statement, Peg.skipping lexis []])]
  | .statement => .alt [
      Rule.block,
      other [";"],
      Rule.importDecl, Rule.exportDecl, Rule.declaration,
      other ["if", enclosed ["(", Rule.expressions, ")"], Rule.statement,
        .opt (other ["else", Rule.statement])],
      other ["for", .opt "await", enclosed ["(", Rule.forHeader, ")"], Rule.statement],
      other ["while", enclosed ["(", Rule.expressions, ")"], Rule.statement],
      other ["do", Rule.statement, "while", enclosed ["(", Rule.expressions, ")"],
        .opt (semicolon d)],
      other ["switch", enclosed ["(", Rule.expressions, ")"], Rule.switchBody],
      other ["try", Rule.block,
        .opt (other ["catch",
          .opt (other ["(", Rule.binding, typeMark d |> .opt, ")"]), Rule.block]),
        .opt (other ["finally", Rule.block])],
      other ["with", enclosed ["(", Rule.expressions, ")"], Rule.statement],
      other [.alt ["break", "continue"], .opt (.seq [sameLine, name]), semicolon d],
      other ["debugger", semicolon d],
      other ["return", .alt [semicolon d, .seq [Rule.expressions, semicolon d]]],
      other ["throw", Rule.expressions, semicolon d],
      other [name, ":", Rule.statement],
      .node .expressionStatement (.seq [Rule.expressions, semicolon d])]
  | .block => .under (fun _ => {})
      (.node .block (.seq [Peg.piece "\x7b", .many (.alt [Rule.statement, Peg.skipping lexis ['\x7d']]),
        Peg.piece "\x7d"]))
  | .variables => .node .declaration (.seq [.alt ["const", "let", "var"],
      Peg.sepBy1 Rule.declarator ",", semicolon d])
  | .declarator => .node .declarator (.seq [.field .name Rule.binding, optTyped d "!",
      typeMark d |> .opt, .opt (.seq ["=", .field .value Rule.expression])])
  | .forHeader => .alt [
      .seq [.alt [.seq [.alt ["const", "let", "var", "using"], Rule.binding], Rule.chain],
        .alt ["in", "of"], Rule.expressions],
      .seq [.alt [Rule.variables, .seq [Rule.expressions, ";"], ";"],
        .opt Rule.expressions, ";", .opt Rule.expressions]]
  | .switchBody => enclosed [Peg.piece "\x7b",
      .many (.alt [other ["case", Rule.expressions, ":", .many Rule.statement],
        other ["default", ":", .many Rule.statement]]), Peg.piece "\x7d"]
  | .importDecl =>
      let source : Expr := .seq ["from", .field .source stringLiteral]
      .node .importDecl (.alt [
        .seq ["import", Rule.importClause, source, .opt Rule.importAttributes, semicolon d],
        .seq ["import", .field .source stringLiteral, .opt Rule.importAttributes, semicolon d],
        typedOnly d (.alt [
          .seq ["import", .alt ["type", "typeof"], Rule.importClause, source,
            .opt Rule.importAttributes, semicolon d],
          .seq ["import", .opt (.seq ["type", .ahead name]),
            other [name, "=", "require", "(", stringLiteral, ")"], semicolon d]])])
  | .importClause =>
      let named : Expr := .alt [
        .node .namespaceImport (.seq ["*", "as", name]),
        .node .namedImports (.seq [Peg.piece "\x7b", list Rule.importSpecifier, Peg.piece "\x7d"])]
      .node .importClause (.alt [named, .seq [name, .opt (.seq [",", named])]])
  | .importSpecifier =>
      let imported : Expr := .field .name (.alt [anyName, stringLiteral])
      let renamed : Expr := .seq [imported, "as", .field .alias name]
      .node .importSpecifier (.alt [renamed, typedOnly d (.seq [.alt ["type", "typeof"], renamed]),
        typedOnly d (.seq [.alt ["type", "typeof"], imported]), imported])
  | .importAttributes => other [.alt ["with", "assert"], Rule.object]
  | .exportDecl =>
      let source : Expr := .seq ["from", .field .source stringLiteral, .opt Rule.importAttributes]
      let clause : Expr := .node .exportClause
        (.seq [Peg.piece "\x7b", list Rule.exportSpecifier, Peg.piece "\x7d"])
      let all : Expr := .alt [other ["*", "as", .alt [anyName, stringLiteral]], "*"]
      .node .exportDecl (.alt [
        .seq ["export", all, source, semicolon d],
        .seq ["export", clause, source, semicolon d],
        .seq ["export", clause, semicolon d],
        typedOnly d (.alt [
          .seq ["export", "type", all, source, semicolon d],
          .seq ["export", "type", clause, .opt source, semicolon d],
          .seq ["export", "=", Rule.expression, semicolon d],
          .seq ["export", "as", "namespace", name, semicolon d]]),
        .seq [.many Rule.decorator, "export", .field .declaration Rule.declaration],
        .seq [.many Rule.decorator, "export", "default", .field .declaration Rule.declaration],
        .seq ["export", "default", .field .value Rule.expression, semicolon d]])
  | .exportSpecifier =>
      let exported : Expr := .alt [anyName, stringLiteral]
      let renamed : Expr := .seq [.field .name exported, "as", .field .alias exported]
      .node .exportSpecifier (.alt [renamed, typedOnly d (.seq [.alt ["type", "typeof"], renamed]),
        typedOnly d (.seq [.alt ["type", "typeof"], .field .name exported]), .field .name exported])
  | .declaration => .alt [Rule.functionDecl, Rule.classDecl, typedOnly d Rule.enumDecl, Rule.variables,
      other [.opt "await", "using", sameLine, Peg.sepBy1 Rule.declarator ",", semicolon d],
      typedOnly d (.alt [Rule.typeAlias, Rule.interfaceDecl, Rule.namespaceDecl, Rule.ambient,
        Rule.importAlias])]
  | .functionDecl =>
      let head : Expr := .seq [.opt (.seq ["async", sameLine]), "function", .opt "*",
        .field .name name, Rule.callSignature]
      .alt [.node .functionDecl (.seq [head, .field .body Rule.block]),
        typedOnly d (other [head, semicolon d])]
  | .classDecl => .alt [
      .node .classDecl (.seq [.many Rule.decorator, "class", .field .name name, Rule.classTail]),
      typedOnly d (.node .abstractClass
        (.seq [.many Rule.decorator, "abstract", "class", .field .name name, Rule.classTail]))]
  | .classTail => .seq [optTyped d Rule.typeParameters, .opt Rule.heritage,
      .field .body Rule.classBody]
  | .heritage => .node .heritage (if d.typed then
      let bases : Expr := .node .baseClause (.seq ["extends",
        Peg.sepBy1 (.seq [.field .value Rule.chain, .opt Rule.typeArguments]) ","])
      let interfaces : Expr := .node .interfaceClause (.seq ["implements", Peg.sepBy1 Rule.type ","])
      .alt [.seq [bases, .opt interfaces], interfaces]
    else .seq ["extends", Rule.chain])
  | .classBody => .under (fun _ => {})
      (.node .classBody (.seq [Peg.piece "\x7b", .many (.alt [Rule.member, Peg.skipping lexis ['\x7d']]),
        Peg.piece "\x7d"]))
  | .member =>
      let field : Expr := .node .field (.seq [.many Rule.decorator, memberModifiers d,
        .field .name Rule.propertyName, optTyped d (.alt ["?", "!"]), typeMark d |> .opt,
        .opt (.seq ["=", .field .value Rule.expression])])
      if d.typed then .alt [
        ";",
        other ["static", Rule.block],
        .seq [.many Rule.decorator, Rule.method],
        .seq [other [.many Rule.decorator, methodHead d, Rule.callSignature], signatureEnd d],
        .seq [other [memberModifiers d, "[", name, ":", Rule.type, "]", ":", Rule.type],
          signatureEnd d],
        .seq [field, signatureEnd d]]
      else .alt [
        ";",
        other ["static", Rule.block],
        Rule.method,
        .seq [field, semicolon d]]
  | .decorator => .node .decorator (.seq ["@", .alt [enclosed ["(", Rule.expression, ")"],
      .grow name [memberSuffix, callSuffix d]]])
  | .enumDecl => .node .enumDecl (.seq [.opt "const", "enum", .field .name name,
      enclosed [Peg.piece "\x7b", list (other [Rule.propertyName, .opt (.seq ["=", Rule.expression])]),
        Peg.piece "\x7d"]])
  | .interfaceDecl => .node .interfaceDecl (.seq ["interface", .field .name name,
      .opt Rule.typeParameters,
      .opt (.node .baseClause (.seq ["extends", Peg.sepBy1 Rule.type ","])), .field .body Rule.typeBody])
  | .typeAlias => .node .typeAlias (.seq ["type", .field .name name, .opt Rule.typeParameters, "=",
      .field .value Rule.type, semicolon d])
  | .namespaceDecl => other [.alt ["namespace", "module"],
      .alt [stringLiteral, other [Peg.sepBy1 name "."]], .alt [Rule.block, semicolon d]]
  | .ambient => other ["declare", .alt [Rule.declaration, .seq ["global", Rule.block]]]
  | .importAlias => other ["import", .opt (.seq ["type", .ahead name]), name, "=",
      Peg.sepBy1 name ".", semicolon d]
  | .propertyName => .alt [anyName, privateName, stringLiteral, number,
      enclosed ["[", Rule.expression, "]"]]
  | .method => .node .method (.seq [if d.typed then .seq [] else .many Rule.decorator, methodHead d,
      Rule.callSignature, .field .body Rule.block])
  | .callSignature => .seq [optTyped d Rule.typeParameters, .field .parameters Rule.parameters,
      typedOnly d (other [":", Rule.returnType]) |> .opt]
  | .parameters =>
      let value : Expr := .opt (.seq ["=", Rule.expression])
      let one : Expr := if d.typed then
        .node .parameter (.seq [.many Rule.decorator,
          .many (.alt [.seq [visibility, .ahead (.notAhead ":")], modifier "override", modifier "readonly"]),
          .field .pattern (.alt [other ["this"], other ["...", Rule.binding], Rule.binding]),
          .opt "?", .opt (typeMark d), value])
      else .node .parameter (.seq [.many Rule.decorator, .alt [
        .seq ["...", .field .pattern Rule.binding], .seq [.field .pattern Rule.binding, value]]])
      enclosed ["(", list one, ")"]
  | .binding =>
      let value : Expr := .opt (.seq ["=", Rule.expression])
      let item : Expr := .alt [other ["...", Rule.binding], .seq [Rule.binding, value]]
      let field : Expr := .alt [other ["...", Rule.binding],
        other [Rule.propertyName, ":", Rule.binding, value], other [name, value]]
      .alt [name, enclosed [Peg.piece "\x7b", list field, Peg.piece "\x7d"],
        enclosed ["[", .many (.alt [",", .seq [item, .ahead (.alt [",", "]"])]]), "]"]]
  | .expressions => .grow Rule.expression [(.other, none, .seq [",", Rule.expression])]
  | .expression => .alt [Rule.arrow,
      other ["yield", .alt [.seq ["*", Rule.expression], .seq [sameLine, Rule.expression], .seq []]],
      .grow Rule.conditional [(.other, none, .seq [assignmentOperators, Rule.expression])]]
  | .arrow =>
      let start : Expr := .opt (.seq ["async", sameLine, .ahead (.alt [name, "(", "<"])])
      let body : Expr := .seq ["=>", .field .body (.alt [Rule.block, Rule.expression])]
      let bare : Expr := .seq [.step none fun mode _ last =>
        if mode.bareArrows then some (mode, ⟨last, last⟩) else none,
        .field .parameters Rule.parameters]
      .node .arrow (.alt [.seq [start, .field .parameter name, body],
        .seq [start, .alt [bare, Rule.callSignature], body]])
  | .conditional => .grow Rule.binary [(.other, none, .alt [
      .seq ["?", Rule.expression, ":", Rule.expression],
      .seq ["?", .under (fun _ => { bareArrows := true }) Rule.expression, ":", Rule.expression]])]
  | .binary => .grow Rule.unary [(.other, none, .seq [binaryOperators, Rule.unary]),
      (.other, none, typedOnly d (.seq [sameLine, .alt ["as", "satisfies"], .alt ["const", Rule.type]]))]
  | .unary => .alt [.node .await (.seq ["await", Rule.unary]),
      other [prefixOperators, Rule.unary],
      if d.typed && !d.markup then other [Peg.piece "<", .alt ["const", Rule.type], Peg.piece ">", Rule.unary]
      else .alt [],
      Rule.suffixed]
  | .suffixed => .grow Rule.chain [(.other, none, .seq [sameLine, Peg.operatorOf lexis ["++", "--"]])]
  | .chain => .grow Rule.primary (suffixes d)
  | .target => .grow Rule.primary [memberSuffix, subscriptSuffix, nonNullSuffix d]
  | .primary =>
      .alt [.node .functionExpr (.seq [.opt (.seq ["async", sameLine]), "function", .opt "*",
          .opt (.field .name name), Rule.callSignature, .field .body Rule.block]),
        name,
        enclosed ["(", Rule.expressions, typeMark d |> .opt, ")"],
        stringLiteral, number, Rule.template, Rule.object, Rule.array,
        other [.alt ["this", "super", "null", "true", "false"]],
        other ["new", .alt [.seq [".", "target"],
          .seq [Rule.target, optTyped d Rule.typeArguments, .opt Rule.arguments]]],
        .seq [.token .importKeyword (Scan.word lexis "import".toList), .ahead (.alt ["(", "."])],
        .node .classExpr (.seq [.many Rule.decorator, "class", .opt (.field .name name), Rule.classTail]),
        leaf regex, privateName, if d.markup then Rule.markup else .alt []]
  | .arguments => enclosed ["(",
      list (.alt [other ["...", Rule.expression], Rule.expression]), ")"]
  | .template => templateOf Rule.expressions
  | .object => enclosed [Peg.piece "\x7b", list (.alt [
      other ["...", Rule.expression],
      other [Rule.propertyName, ":", Rule.expression],
      Rule.method,
      other [name, .opt (.seq ["=", Rule.expression])]]), Peg.piece "\x7d"]
  | .array => enclosed ["[", .many (.alt [",",
      .seq [.alt [other ["...", Rule.expression], Rule.expression], .ahead (.alt [",", "]"])]]), "]"]
  | .markup =>
      let close : Expr := .seq [Peg.piece "<", Peg.piece "/"]
      enclosed [Peg.piece "<", .alt [
        .seq [Peg.piece ">", .many Rule.markupChild, close, Peg.piece ">"],
        .seq [Rule.markupName, optTyped d Rule.typeArguments, .many Rule.markupAttribute, .alt [
          .seq [Peg.piece "/", Peg.piece ">"],
          .seq [Peg.piece ">", .many Rule.markupChild, close, Rule.markupName, Peg.piece ">"]]]]]
  | .markupName => leaf markupWord
  | .markupAttribute => .alt [
      other [Peg.piece "\x7b", "...", Rule.expression, Peg.piece "\x7d"],
      other [Rule.markupName, .opt (.seq [Peg.piece "=", .alt [
        .token .string (Scan.quoted ['"'] true false), .token .string (Scan.quoted ['\''] true false),
        other [Peg.piece "\x7b", Rule.expressions, Peg.piece "\x7d"], Rule.markup]])]]
  | .markupChild => .alt [
      Peg.glued .other markupText,
      other [Peg.piece "\x7b", .opt (.alt [.seq ["...", Rule.expression], Rule.expressions]),
        Peg.piece "\x7d"],
      Rule.markup]
  | .type =>
      .alt [
        other [.opt "abstract", .opt "new", .opt Rule.typeParameters, Rule.parameters, "=>", Rule.returnType],
        .grow Rule.union [(.other, none,
          .seq ["extends", .alt [
            .seq [Rule.union, "?"], other ["infer", name, "extends", Rule.union, "?"]], Rule.type, ":", Rule.type])]]
  | .returnType => .alt [
      other ["asserts", .alt [name, "this"], .opt (.seq ["is", Rule.type])],
      other [.alt [name, "this"], sameLine, "is", Rule.type],
      Rule.type]
  | .union =>
      let both : Expr := other [.opt "&", Peg.sepBy1 Rule.typeOperand "&"]
      other [.opt "|", Peg.sepBy1 both "|"]
  | .typeOperand => .alt [
      other ["infer", name, .opt (.seq ["extends", Rule.union, .notAhead "?"])],
      other [.alt ["keyof", "unique", "readonly"], Rule.typeOperand],
      Rule.typePostfix]
  | .typePostfix => .grow Rule.typePrimary
      [(.other, none, .seq [sameLine, "[", .opt Rule.type, "]"])]
  | .typePrimary =>
      let arguments : Expr := .opt Rule.typeArguments
      let imported : Expr := other ["import", "(", Rule.expressions, ")", .many (.seq [".", anyName]), arguments]
      .alt [
        other ["typeof", .alt [imported, .seq [Peg.sepBy1 anyName ".", arguments]]],
        imported,
        enclosed ["(", Rule.type, ")"],
        Rule.typeBody,
        enclosed ["[", list (.alt [
          other [.opt "...", anyName, .opt "?", ":", Rule.type],
          other [.opt "...", Rule.type, .opt "?"]]), "]"],
        templateOf Rule.type,
        stringLiteral, number, other ["-", number],
        other [.alt ["this", "void", "null", "true", "false"]],
        other [Peg.sepBy1 name ".", arguments]]
  | .typeBody => enclosed [Peg.piece "\x7b",
      .many (.alt [",", ";", Rule.typeMember]), Peg.piece "\x7d"]
  | .typeMember =>
      let readonly : Expr := .many (.alt [.seq [.opt (.alt ["+", "-"]), modifier "readonly"], modifier "static"])
      .alt [
        other [Rule.callSignature],
        other [.opt "abstract", "new", Rule.callSignature],
        other [readonly, "[", name, .alt [.seq [":", Rule.type],
          .seq ["in", Rule.type, .opt (.seq ["as", Rule.type])]], "]",
          .opt (.seq [.opt (.alt ["+", "-"]), "?"]), .opt (other [":", Rule.type])],
        other [readonly, accessorMark, Rule.propertyName, .opt "?", Rule.callSignature],
        other [readonly, Rule.propertyName, .opt "?", typeMark d |> .opt]]
  | .typeArguments => enclosed [Peg.piece "<", Peg.sepBy1 Rule.type ",", .opt ",", Peg.piece ">"]
  | .typeParameters => enclosed [Peg.piece "<",
      list (other [.many (.seq [.alt ["const", "in", "out"], .ahead name]), name,
        .opt (.seq ["extends", Rule.type]), .opt (.seq ["=", Rule.type])]), Peg.piece ">"]

def grammar (d : Dialect) : Grammar Rule Mode where
  blanks _ := blanks
  rules := rules d
  start := .program
  mode := {}
  last := {}

end CodeAudit.Grammar.Script
