import CodeAudit.Outline.Basic

/-!
The outline of Go texts: functions and methods, types, package-level bindings, imports and calls. A
name that begins with an upper-case letter is exported.
-/
namespace CodeAudit.Outline.Go

open Syntax

/-- Built-in functions and conversions, which are not calls of declared functions. -/
def builtins : List String :=
  ["append", "cap", "close", "copy", "delete", "len", "make", "new", "panic", "print", "println",
   "recover", "string", "int", "int64", "float64", "byte", "rune"]

def isExported (name : String) : Bool := name.toList.head?.any Text.isUppercase

def exported (src : OutlineSource) (name kind : String) (t : Tree) : Outline :=
  if isExported name then { exports := [{ name := name, kind := kind, line := src.line t }] } else {}

def dropStars (text : String) : String := String.ofList (text.toList.dropWhile (· == '*'))

/-- A block with nothing but comments in it. -/
def isEmptyBlock (block : Tree) : Bool :=
  block.named.all fun c =>
    c.tag == .comment || (c.tag == .statements && c.named.all fun d => d.tag == .comment)

section

variable (src : OutlineSource) (collect : Tree → Outline)

def importDecl (t : Tree) : Outline :=
  let specs := t.childrenOf .importSpec
    ++ ((t.childOf? .importGroup).map fun g => g.childrenOf .importSpec).getD []
  Outline.concat <| specs.map fun spec =>
    match spec.child? .path with
    | none => {}
    | some quoted =>
      let path := unquote (src.text quoted)
      let name := ((spec.child? .name).map src.text).getD ((Text.splitOn path '/').getLastD path)
      { nodes := [src.importNode path [name] spec]
        imports := [{ ImportInfo.new path (src.line spec) with specifiers := [name] }] }

def receiver (ast : AstNode) (t : Tree) : AstNode :=
  match (t.child? .receiver).bind fun list => list.childOf? .parameter with
  | none => ast
  | some r =>
    let ast := match r.child? .type with
      | none => ast
      | some ty =>
        let type := stripTypeArguments (Text.trim (dropStars (src.text ty)))
        ((ast.setMeta "isMethod" (.flag true)).setMeta "className" (.text type)).setMeta "receiver"
          (.text type)
    match r.child? .name with
    | some n => ast.setMeta "receiverName" (.text (src.text n))
    | none => ast

def function (t : Tree) : Outline :=
  let name := src.nameOf t
  let parameters := ((t.child? .parameters).map fun list =>
    (list.childrenOf .parameter).flatMap fun p => (p.childrenIn .name).map src.text).getD []
  let body := t.child? .body
  let ast := src.node .function name t [
    ("exported", .flag (isExported name)),
    ("visibility", .text (if isExported name then "public" else "package")),
    ("async", .flag false), ("paramCount", .int parameters.length), ("parameters", .texts parameters),
    ("bodyEmpty", .flag (body.any isEmptyBlock)),
    ("spawnsGoroutine", .flag (body.any fun b => b.contains (· == .spawn) fun _ => false))]
  exported src name "function" t
    ++ Outline.below (receiver src ast t) (Outline.ofChild collect t .body)

/-- The types a struct embeds: its fields without a name. -/
def embedded (struct : Tree) : List String :=
  ((struct.childOf? .fieldGroup).map fun group =>
    (group.childrenOf .field).filterMap fun f =>
      if (f.child? .name).isSome then none
      else (f.child? .type).map fun ty => stripTypeArguments (dropStars (src.text ty))).getD []

def typeSpec (anchor spec : Tree) : Outline :=
  let name := src.nameOf spec
  let type := spec.child? .type
  let isAlias := spec.tag == .typeAlias
  let flags : List (String × MetaValue) := [("exported", .flag (isExported name))]
  let withTexts (n : AstNode) (key : String) (items : List String) : AstNode :=
    if items.isEmpty then n else n.setMeta key (.texts items)
  let (ast, kind) : AstNode × String := match type with
    | none => (src.node .typeAlias name anchor flags, "type")
    | some ty =>
      match isAlias, ty.tag with
      | false, .structType =>
        (withTexts (src.node .classType name anchor flags) "embeds" (embedded src ty), "struct")
      | false, .interfaceType =>
        (withTexts (src.node .interfaceType name anchor flags) "extends"
          ((ty.childrenOf .embeddedType).map fun e => stripTypeArguments (src.text e)), "interface")
      | _, _ => ((src.node .typeAlias name anchor flags).setMeta "value" (.text (src.text ty)), "type")
  exported src name kind anchor ++ Outline.ofNode ast

def typeGroup (t : Tree) : Outline :=
  let specs := t.children.filter fun c => c.tag == .typeSpec || c.tag == .typeAlias
  Outline.concat (specs.map fun s => typeSpec src (if specs.length == 1 then t else s) s)

/-- Package-level bindings. In a list of constants the commas between the names are counted as names
too. -/
def bindings (t : Tree) : Outline :=
  let isConst := t.tag == .constDeclaration
  let specs := t.childrenOf .declarator
  Outline.concat <| specs.map fun spec =>
    let names := spec.childrenIn .name
    let value := spec.child? .value
    let anchor := if specs.length == 1 && names.length == 1 then t else spec
    let each := names.map fun n =>
      let name := src.text n
      let ast := src.node .binding name anchor
        [("exported", .flag (isExported name)), ("const", .flag isConst)]
      exported src name "variable" anchor ++ Outline.ofNode (match value with
        | some v => ast.setMeta "value" (.text (src.text v))
        | none => ast)
    Outline.concat each ++ (value.map collect).getD {}

/-- A call, with the calls in front of its last name before it and those of its arguments after it. -/
def call (t : Tree) : Outline :=
  match t.child? .callee with
  | none => {}
  | some callee =>
    let (before, name) : Outline × Option String := match callee.tag with
      | .identifier => ({}, some (src.text callee))
      | .member => (Outline.ofChild collect callee .object, (callee.child? .property).map src.text)
      | _ => (collect callee, none)
    let own : Outline := match name with
      | some name =>
        if builtins.contains name then {} else Outline.ofNode (src.call name (src.text callee) t)
      | none => {}
    before ++ own ++ Outline.ofChild collect t .arguments

end

/-- The outline of a tree; the fuel bounds its height. -/
def walk (src : OutlineSource) (fuel : Nat) (atPackage : Bool) (t : Tree) : Outline :=
  match fuel with
  | 0 => {}
  | fuel + 1 =>
    let collect := walk src fuel false
    let below (t : Tree) : Outline := Outline.concat (t.children.map collect)
    match t.tag with
    | .packageDecl => { package := (t.child? .name).map src.text }
    | .importDecl => importDecl src t
    | .functionDecl => function src collect t
    | .typeGroup => typeGroup src t
    | .declaration | .constDeclaration => if atPackage then bindings src collect t else below t
    | .call => call src collect t
    | _ => below t

/-- The outline of a whole file. -/
def ofModule (src : OutlineSource) (t : Tree) : Outline :=
  Outline.concat (t.children.map (walk src t.height true))

end CodeAudit.Outline.Go
