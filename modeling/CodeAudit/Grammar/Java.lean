import CodeAudit.Syntax.Scan

/-!
The grammar of Java. Statements may stand outside of classes. Operators are read without precedence.
-/
namespace CodeAudit.Grammar.Java

open Syntax

inductive Rule where
  | program | typeDecl | modifiers | marker | annotationArguments | elementValue
  | classDecl | interfaceDecl | enumDecl | recordDecl | annotationDecl | moduleDecl
  | classBody | member | annotationMember | enumConstant | constructorBody | typeList | interfaces
  | permits | throws
  | formalParameters | parameter | declarator | method | field
  | type | simpleType | dimensions | typeArguments | typeParameters
  | block | statement | localVariable | forHeader | switchBlock | caseLabel | pattern | tryTail
  | expression | lambda | conditional | binary | unary | suffixed | chain | primary | newExpr
  | arguments | arrayInit
deriving DecidableEq, Repr

abbrev Expr := Peg Rule Unit

def lexis : Scan.Lexis where
  wordStart c := c == '_' || c == '$' || Text.isIdStart c
  wordPart c := c == '_' || c == '$' || c == '\u00a2' || Text.isIdContinue c
  operators := [">>>=", "...", ">>>", "<<=", ">>=", "->", "::", "==", "!=", "<=", ">=", "<<", ">>",
    "++", "--", "+=", "-=", "*=", "/=", "%=", "&=", "|=", "^=", "&&", "||", "+", "-", "*", "/", "%",
    "&", "|", "^", "!", "~", "<", ">", "=", "?", ".", ":"].map String.toList
  reserved := ["abstract", "assert", "boolean", "break", "byte", "case", "catch", "char", "class",
    "continue", "default", "do", "double", "else", "enum", "extends", "false", "final", "finally",
    "float", "for", "if", "implements", "import", "instanceof", "int", "interface", "long", "native",
    "new", "null", "package", "private", "protected", "public", "return", "short", "static",
    "strictfp", "super", "switch", "synchronized", "this", "throw", "throws", "transient", "true",
    "try", "void", "volatile", "while"]

instance : Coe String Expr := ⟨Peg.spelled lexis⟩
instance : Coe Rule Expr := ⟨Peg.rule⟩

def isBlank (c : Char) : Bool := Text.isBlankChar c

def blanks (s : Source) (i : Nat) : Nat := Scan.skipBlanks isBlank Scan.slashComment? s i

def other (parts : List Expr) : Expr := Peg.other parts

def leaf (scan : Scanner) : Expr := .token .other scan

def name : Expr := .token .identifier (Scan.freeWord lexis)

def dotted : Expr := other [Peg.sepBy1 name "."]

def list (item : Expr) : Expr := Peg.listOf item ","

def opening : Expr := Peg.piece "\x7b"

def closing : Expr := Peg.piece "\x7d"

def literal : Expr := .alt [
  leaf (Scan.quoted ['"', '"', '"'] true true), leaf (Scan.quoted ['"'] false true),
  leaf (Scan.quoted ['\''] false true), leaf Scan.number,
  other [Peg.spelledAny lexis ["true", "false", "null"]]]

def primitive : Expr := leaf (Scan.oneOf lexis
  ["boolean", "byte", "char", "double", "float", "int", "long", "short", "void"])

def modifierWords : Expr := .alt [
  Peg.spelledAny lexis ["public", "protected", "private", "abstract", "static", "final", "strictfp",
    "default", "synchronized", "native", "transient", "volatile"],
  .seq [.token (.token "non-sealed") (Scan.exact "non-sealed".toList)],
  .seq ["sealed", .ahead (.alt [name, "class", "interface", "abstract", "public", "static"])]]

def binaryOperators : Expr := Peg.operatorOf lexis ["||", "&&", "|", "^", "&", "==", "!=", "<", ">", "<=",
  ">=", "<<", ">>", ">>>", "+", "-", "*", "/", "%"]

def assignmentOperators : Expr := Peg.operatorOf lexis ["=", "+=", "-=", "*=", "/=", "%=", "&=", "|=", "^=",
  "<<=", ">>=", ">>>="]

def rules : Rule → Expr
  | .program => .many (.alt [
      .node .packageDecl (.seq [.many Rule.marker, "package", .field .name dotted, ";"]),
      .node .importDecl (.seq ["import", .opt "static", .field .name dotted,
        .opt (.seq [".", .node .importAll "*"]), ";"]),
      Rule.moduleDecl, Rule.typeDecl, Rule.statement, Rule.method, Peg.skipping lexis []])
  | .typeDecl => .alt [Rule.classDecl, Rule.interfaceDecl, Rule.enumDecl, Rule.recordDecl,
      Rule.annotationDecl]
  | .modifiers => .node .modifiers (Peg.some (.alt [Rule.marker, modifierWords]))
  | .marker => .node .marker (.seq ["@", .notAhead "interface", .field .name dotted,
      .opt Rule.annotationArguments])
  | .annotationArguments => other ["(",
      list (.alt [other [name, "=", Rule.elementValue], Rule.elementValue]), ")"]
  | .elementValue => .alt [Rule.marker,
      other [opening, list Rule.elementValue, closing], Rule.conditional]
  | .classDecl => .node .classDecl (.seq [.opt Rule.modifiers, "class", .field .name name,
      .opt Rule.typeParameters, .opt (.field .superclass (other ["extends", Rule.type])),
      .opt Rule.interfaces, .opt Rule.permits, .field .body Rule.classBody])
  | .interfaceDecl => .node .interfaceDecl (.seq [.opt Rule.modifiers, "interface", .field .name name,
      .opt Rule.typeParameters, .opt (.node .baseClause (.seq ["extends", Rule.typeList])),
      .opt Rule.permits, .field .body Rule.classBody])
  | .enumDecl => .node .enumDecl (.seq [.opt Rule.modifiers, "enum", .field .name name,
      .opt Rule.interfaces, .field .body (other [opening, list Rule.enumConstant,
        .opt (other [";", .many Rule.member]), closing])])
  | .recordDecl => .node .record (.seq [.opt Rule.modifiers, "record", .field .name name,
      .opt Rule.typeParameters, .field .parameters Rule.formalParameters, .opt Rule.interfaces,
      .field .body Rule.classBody])
  | .annotationDecl => .node .annotationType (.seq [.opt Rule.modifiers, "@", "interface",
      .field .name name, .field .body (other [opening, .many Rule.annotationMember, closing])])
  | .moduleDecl => other [.many Rule.marker, .opt "open", "module", dotted, opening,
      .many (other [Peg.spelledAny lexis ["requires", "exports", "opens", "uses", "provides"],
        leaf (fun s i => some (s.skipWhile (· != ';') i)), ";"]), closing]
  | .classBody => .node .classBody (.seq [opening,
      .many (.alt [Rule.member, Peg.skipping lexis ['\x7d']]), closing])
  | .member => .alt [
      ";", Rule.typeDecl, other ["static", Rule.block], Rule.block,
      .node .constructorDecl (.seq [.opt Rule.modifiers, .opt Rule.typeParameters, .field .name name,
        .field .parameters Rule.formalParameters, .opt Rule.throws, .field .body Rule.constructorBody]),
      .node .constructorDecl (.seq [.opt Rule.modifiers, .field .name name, .field .body Rule.block]),
      Rule.method, Rule.field]
  | .annotationMember => .alt [
      ";", Rule.typeDecl,
      other [.opt Rule.modifiers, Rule.type, .field .name name, "(", ")", .opt Rule.dimensions,
        .opt (.seq ["default", Rule.elementValue]), ";"],
      Rule.field]
  | .enumConstant => other [.opt Rule.modifiers, .field .name name, .opt Rule.arguments,
      .opt Rule.classBody]
  | .constructorBody =>
      let start : Expr := .alt [.seq [.opt Rule.typeArguments, .alt ["this", "super"]],
        .seq [dotted, ".", .opt Rule.typeArguments, "super"]]
      .node .block (.seq [opening, .opt (other [start, Rule.arguments, ";"]),
        .many Rule.statement, closing])
  | .typeList => .node .typeList (Peg.sepBy1 Rule.type ",")
  | .interfaces => .field .interfaces (other ["implements", Rule.typeList])
  | .permits => other ["permits", Rule.typeList]
  | .throws => other ["throws", Peg.sepBy1 Rule.type ","]
  | .formalParameters => other ["(", list (.alt [
      other [.many Rule.marker, Rule.type, .opt (.seq [name, "."]), "this"], Rule.parameter]),
      .alt [")", .repair (.ahead opening)]]
  | .parameter => .node .parameter (.seq [.opt Rule.modifiers, Rule.type,
      .opt (.seq ["...", .many Rule.marker]), .field .name name, .opt Rule.dimensions])
  | .declarator => .node .declarator (.seq [.field .name name, .opt Rule.dimensions,
      .opt (.seq ["=", .field .value (.alt [Rule.arrayInit, Rule.expression])])])
  | .method => .node .method (.seq [.opt Rule.modifiers,
      .opt (.seq [Rule.typeParameters, .many Rule.marker]), .field .type Rule.type,
      .field .name name, .field .parameters Rule.formalParameters, .opt Rule.dimensions,
      .opt Rule.throws, .alt [.field .body Rule.block, ";"]])
  | .field => .node .field (.seq [.opt Rule.modifiers, .field .type Rule.type,
      Peg.sepBy1 Rule.declarator ",", ";"])
  | .type => .grow Rule.simpleType [(.other, none, .seq [.many Rule.marker, "[", "]"])]
  | .simpleType => .alt [primitive,
      other [Peg.sepBy1 (.seq [.many Rule.marker, name, .opt Rule.typeArguments]) "."]]
  | .dimensions => other [Peg.some (.seq [.many Rule.marker, "[", "]"])]
  | .typeArguments => other [Peg.piece "<", list (.alt [
      other [.many Rule.marker, "?", .opt (.seq [.alt ["extends", "super"], Rule.type])],
      Rule.type]), Peg.piece ">"]
  | .typeParameters => other [Peg.piece "<", list (other [.many Rule.marker, name,
      .opt (.seq ["extends", Peg.sepBy1 Rule.type "&"])]), Peg.piece ">"]
  | .block => .node .block (.seq [opening,
      .many (.alt [Rule.statement, Peg.skipping lexis ['\x7d']]), closing])
  | .statement =>
      let condition : Expr := other ["(", Rule.expression, ")"]
      .alt [
        Rule.block, ";", Rule.typeDecl,
        other ["if", condition, Rule.statement, .opt (.seq ["else", Rule.statement])],
        other ["while", condition, Rule.statement],
        other ["for", "(", Rule.forHeader, ")", Rule.statement],
        other ["do", Rule.statement, "while", condition, ";"],
        other ["switch", condition, Rule.switchBlock],
        other ["try", Rule.tryTail],
        other ["synchronized", condition, Rule.block],
        other ["return", .opt Rule.expression, ";"],
        other ["throw", Rule.expression, ";"],
        other [.alt ["break", "continue"], .opt name, ";"],
        other ["assert", Rule.expression, .opt (.seq [":", Rule.expression]), ";"],
        other ["yield", .notAhead (.alt ["=", ".", "(", "["]), Rule.expression, ";"],
        Rule.localVariable,
        other [name, ":", Rule.statement],
        other [Rule.expression, ";"]]
  | .localVariable => other [.opt Rule.modifiers, Rule.type, Peg.sepBy1 Rule.declarator ",", ";"]
  | .forHeader => .alt [
      .seq [.opt Rule.modifiers, Rule.type, name, .opt Rule.dimensions, ":", Rule.expression],
      .seq [.alt [Rule.localVariable, .seq [.opt (Peg.sepBy1 Rule.expression ","), ";"]],
        .opt Rule.expression, ";", .opt (Peg.sepBy1 Rule.expression ",")]]
  | .switchBlock => other [opening, .many (.alt [
      other [Rule.caseLabel, "->", .alt [Rule.block, other ["throw", Rule.expression, ";"],
        other [Rule.expression, ";"]]],
      other [Peg.some (.seq [Rule.caseLabel, ":"]), .many Rule.statement]]), closing]
  | .caseLabel =>
      let one : Expr := .alt ["default", Rule.pattern, Rule.conditional]
      .alt [other ["case", Peg.sepBy1 one ",", .opt (other ["when", Rule.conditional])], other ["default"]]
  | .pattern => .alt [
      other [Rule.type, "(", list Rule.pattern, ")", .opt name],
      other [.opt Rule.modifiers, Rule.type, name]]
  | .tryTail =>
      let resource : Expr := .alt [
        other [.opt Rule.modifiers, Rule.type, name, .opt Rule.dimensions, "=", Rule.expression],
        Rule.chain]
      .seq [.opt (other ["(", Peg.sepBy1 resource ";", .opt ";", ")"]), Rule.block,
        .many (other ["catch", "(", other [.opt Rule.modifiers, Peg.sepBy1 Rule.type "|", name], ")",
          Rule.block]),
        .opt (other ["finally", Rule.block])]
  | .expression => .alt [Rule.lambda,
      .grow Rule.conditional [(.other, none, .seq [assignmentOperators, Rule.expression])]]
  | .lambda => other [.alt [name, other ["(", list name, ")"], Rule.formalParameters], "->",
      .alt [Rule.block, Rule.expression]]
  | .conditional => .grow Rule.binary
      [(.other, none, .seq ["?", Rule.expression, ":", Rule.expression])]
  | .binary => .grow Rule.unary [(.other, none, .seq [binaryOperators, Rule.unary]),
      (.other, none, .seq ["instanceof", .opt "final", .alt [Rule.pattern, Rule.type]])]
  | .unary => .alt [
      other [Peg.operatorOf lexis ["++", "--", "+", "-", "!", "~"], Rule.unary],
      other ["(", primitive, .many (.seq ["[", "]"]), ")", Rule.unary],
      other ["(", Peg.sepBy1 Rule.type "&", ")",
        .alt [Rule.lambda, .seq [.notAhead (.alt ["+", "-", "++", "--"]), Rule.unary]]],
      Rule.suffixed]
  | .suffixed => .grow Rule.chain [(.other, none, Peg.operatorOf lexis ["++", "--"])]
  | .chain => .grow Rule.primary [
      (.call, some .object, .seq [".", .opt (.seq ["super", "."]), .opt Rule.typeArguments, .field .name name,
        .field .arguments Rule.arguments]),
      (.creation, none, .seq [".", Rule.newExpr]),
      (.other, none, .seq [".", .alt [name, "this", "super"]]),
      (.other, none, .seq ["[", Rule.expression, "]"]),
      (.other, none, .seq ["::", .opt Rule.typeArguments, .alt [name, "new"]])]
  | .primary => .alt [
      .node .call (.seq [.field .name name, .field .arguments Rule.arguments]),
      other [Rule.type, .alt [.seq ["::", .opt Rule.typeArguments, .alt [name, "new"]],
        .seq [".", "class"]]],
      name,
      other [.alt ["this", "super"]],
      literal,
      other ["(", Rule.expression, ")"],
      .node .creation Rule.newExpr,
      other ["new", .many Rule.marker, Rule.simpleType,
        Peg.some (.seq [.many Rule.marker, "[", .opt Rule.expression, "]"]), .opt Rule.arrayInit],
      other ["switch", other ["(", Rule.expression, ")"], Rule.switchBlock]]
  | .newExpr => .seq ["new", .many Rule.marker, .opt Rule.typeArguments,
      .field .type Rule.simpleType, .field .arguments Rule.arguments, .opt Rule.classBody]
  | .arguments => other ["(", list Rule.expression, ")"]
  | .arrayInit => other [opening, list (.alt [Rule.arrayInit, Rule.expression]), closing]

def grammar : Grammar Rule Unit where
  blanks _ := blanks
  rules := rules
  start := .program
  mode := ()
  last := ()

end CodeAudit.Grammar.Java
