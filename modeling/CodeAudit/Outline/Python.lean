import CodeAudit.Outline.Basic

/-!
The outline of Python texts. Names at module level that do not begin with an underscore are exported;
a method's receiver is not one of its parameters.
-/
namespace CodeAudit.Outline.Python

open Syntax

/-- The nearest scope around a construct. -/
inductive Scope where
  | module
  | inClass
  | inFunction
deriving DecidableEq, Repr

/-- Where a tree stands: right in the module or not, and the scope around it. -/
structure Place where
  atModule : Bool := false
  scope : Scope := .module

def opensScope (t : Tag) : Bool := t == .functionDecl || t == .lambda || t == .classDecl

def isHidden (name : String) : Bool := Text.startsWith name "_"

def visibilityOf (name : String) : String :=
  if Text.startsWith name "__" && !Text.endsWith name "__" then "private"
  else if Text.startsWith name "_" && !Text.startsWith name "__" then "protected"
  else "public"

/-- A statement that does nothing: `pass`, a comment, a literal text or an ellipsis. -/
def isIdle (t : Tree) : Bool :=
  match t.tag with
  | .pass | .comment => true
  | .expressionStatement =>
    match t.named with
    | [e] => e.tag == .string || e.tag == .ellipsis
    | _ => false
  | _ => false

def exported (src : OutlineSource) (name kind : String) (t : Tree) : Outline :=
  { exports := [{ name := name, kind := kind, line := src.line t }] }

section

variable (src : OutlineSource) (collect : Place → Tree → Outline)

def withDecorators (n : AstNode) (decorators : List String) : AstNode :=
  if decorators.isEmpty then n else n.setMeta "decorators" (.texts decorators)

def classType (place : Place) (t : Tree) (decorators : List String) : Outline :=
  let name := src.nameOf t
  let isExported := place.scope == .module && !isHidden name
  let ast := src.node .classType name t
    [("exported", .flag isExported), ("visibility", .text (visibilityOf name))]
  let bases := ((t.child? .superclass).map fun list =>
    (list.named.filter fun b => b.tag != .keywordArgument && b.tag != .comment).map src.text).getD []
  let ast := if bases.isEmpty then ast else ast.setMeta "extends" (.texts bases)
  let body := Outline.ofChild (collect { scope := .inClass }) t .body
  (if isExported then exported src name "class" t else {})
    ++ Outline.below (withDecorators ast decorators) body

def function (place : Place) (t : Tree) (decorators : List String) : Outline :=
  let name := src.nameOf t
  let isExported := place.scope == .module && !isHidden name
  let isStatic := decorators.contains "staticmethod"
  let all := ((t.child? .parameters).map fun list =>
    (list.childrenOf .parameter).filterMap fun p => (p.child? .name).map src.text).getD []
  let hasReceiver := place.scope == .inClass && !isStatic
    && (all.head?.any fun p => p == "self" || p == "cls")
  let parameters := if hasReceiver then all.tail else all
  let body := t.child? .body
  let ast := src.node .function name t [
    ("async", .flag (t.hasWord "async")), ("exported", .flag isExported), ("static", .flag isStatic),
    ("visibility", .text (visibilityOf name)), ("paramCount", .int parameters.length),
    ("parameters", .texts parameters),
    ("hasAwait", .flag (body.any fun b => b.contains (· == .await) opensScope)),
    ("bodyEmpty", .flag (body.any fun b => b.named.all isIdle))]
  let ast := if hasReceiver then ast.setMeta "receiver" (.text (all.headD "")) else ast
  (if isExported then exported src name "function" t else {})
    ++ Outline.below (withDecorators ast decorators)
      (Outline.ofChild (collect { scope := .inFunction }) t .body)

/-- A decorator's name: neither the mark nor the arguments. -/
def decoratorName (t : Tree) : String :=
  let text := Text.trim (String.ofList ((src.text t).toList.dropWhile (· == '@')))
  Text.trim (String.ofList (text.toList.takeWhile (· != '(')))

def decorated (place : Place) (t : Tree) : Outline :=
  let decorators := (t.childrenOf .decorator).map (decoratorName src)
  match t.child? .definition with
  | none => {}
  | some d =>
    match d.tag with
    | .classDecl => classType src collect place d decorators
    | .functionDecl => function src collect place d decorators
    | _ => collect place d

/-- A module-level statement: an assignment to one name makes a binding. -/
def moduleStatement (place : Place) (t : Tree) : Outline :=
  let inner (c : Tree) := collect { place with atModule := false } c
  let assigned := (t.named.head?.filter fun a => a.tag == .assignment).bind fun a =>
    ((a.child? .left).filter fun l => l.tag == .identifier).map fun left => (a, left)
  match assigned with
  | none => Outline.concat (t.children.map inner)
  | some (a, left) =>
    let name := src.text left
    let ast := src.node .binding name t [("exported", .flag (!isHidden name))]
    let value := a.child? .right
    let ast := match value with
      | some v => ast.setMeta "value" (.text (src.text v))
      | none => ast
    (if isHidden name then {} else exported src name "variable" t)
      ++ Outline.ofNode ast ++ (value.map inner).getD {}

def imported (t : Tree) (source : String) (specifiers : List String) : Outline :=
  { nodes := [src.importNode source specifiers t]
    imports := [{ ImportInfo.new source (src.line t) with specifiers := specifiers }] }

def lastPart (dotted : String) : String := (Text.splitOn dotted '.').getLastD dotted

def importDecl (t : Tree) : Outline :=
  Outline.concat <| (t.childrenIn .name).map fun n =>
    if n.tag == .aliased then
      let source := ((n.child? .name).map src.text).getD ""
      imported src t source [((n.child? .alias).map src.text).getD source]
    else
      let source := src.text n
      imported src t source [lastPart source]

def importFrom (t : Tree) : Outline :=
  match t.child? .source with
  | none => {}
  | some m =>
    let names := (t.childrenIn .name).filterMap fun n =>
      (if n.tag == .aliased then (n.child? .alias).or (n.child? .name) else some n).map src.text
    let all := if (t.childOf? .importAll).isSome then ["*"] else []
    imported src t (src.text m) (names.filter (· != "") ++ all)

/-- A call, with the calls in front of its last name before it and those of its arguments after it. -/
def call (place : Place) (t : Tree) : Outline :=
  match t.child? .callee with
  | none => {}
  | some callee =>
    let (before, name) : Outline × Option String := match callee.tag with
      | .identifier => ({}, some (src.text callee))
      | .member => (Outline.ofChild (collect place) callee .object,
          (callee.child? .property).map src.text)
      | _ => (collect place callee, none)
    let own : Outline := match name with
      | some name => Outline.ofNode (src.call name (src.text callee) t)
      | none => {}
    before ++ own ++ Outline.ofChild (collect place) t .arguments

end

/-- The outline of a tree; the fuel bounds its height. -/
def walk (src : OutlineSource) (fuel : Nat) (place : Place) (t : Tree) : Outline :=
  match fuel with
  | 0 => {}
  | fuel + 1 =>
    let collect := walk src fuel
    let inner : Place :=
      { scope := if t.tag == .lambda then .inFunction else place.scope }
    let below (t : Tree) : Outline := Outline.concat (t.children.map (collect inner))
    match t.tag with
    | .importDecl => importDecl src t
    | .importFrom => importFrom src t
    | .classDecl => classType src collect place t []
    | .functionDecl => function src collect place t []
    | .decorated => decorated src collect place t
    | .expressionStatement => if place.atModule then moduleStatement src collect place t else below t
    | .call => call src collect inner t
    | _ => below t

/-- The outline of a whole module. -/
def ofModule (src : OutlineSource) (t : Tree) : Outline :=
  Outline.concat (t.children.map (walk src t.height { atModule := true }))

end CodeAudit.Outline.Python
