import CodeAudit.Outline.Basic

/-!
The outline of Java texts: types with their bases, methods and constructors, fields, imports, calls and
creations. What an interface declares without a visibility is public.
-/
namespace CodeAudit.Outline.Java

open Syntax

inductive TypeForm where
  | classForm
  | interfaceForm
  | annotationForm
  | enumForm
deriving DecidableEq, Repr

namespace TypeForm

def name : TypeForm → String
  | classForm => "class"
  | interfaceForm => "interface"
  | annotationForm => "annotation"
  | enumForm => "enum"

def kind : TypeForm → NodeKind
  | classForm => .classType
  | interfaceForm | annotationForm => .interfaceType
  | enumForm => .enumType

end TypeForm

/-- The package in force and the innermost type around a construct. -/
structure Place where
  package : Option String := none
  owner : Option TypeForm := none

def Place.inInterface (p : Place) : Bool :=
  p.owner == some .interfaceForm || p.owner == some .annotationForm

/-- What stands in front of a declaration. -/
structure Modifiers where
  words : List String := []
  annotations : List String := []

def Modifiers.visibility (m : Modifiers) (default : String) : String :=
  (["public", "protected", "private"].find? m.words.contains).getD default

section

variable (src : OutlineSource) (collect : Place → Tree → Outline)

def modifiers (t : Tree) : Modifiers :=
  match t.childOf? .modifiers with
  | none => {}
  | some list =>
    let (annotations, words) := list.children.partition fun c => c.tag == .marker
    { words := words.map src.text, annotations := annotations.map src.nameOf }

def typeNames (t : Tree) : List String :=
  ((t.childOf? .typeList).map fun list =>
    list.named.map fun b => stripTypeArguments (src.text b)).getD []

def withTexts (n : AstNode) (key : String) (items : List String) : AstNode :=
  if items.isEmpty then n else n.setMeta key (.texts items)

def declaredType (place : Place) (t : Tree) (form : TypeForm) : Outline :=
  let name := src.nameOf t
  let mods := modifiers src t
  let visibility := mods.visibility (if place.inInterface then "public" else "package")
  let exported := visibility == "public" && place.owner.isNone
  let ast := src.node form.kind name t [
    ("visibility", .text visibility), ("exported", .flag exported),
    ("static", .flag (mods.words.contains "static")),
    ("abstract", .flag (mods.words.contains "abstract"))]
  let ast := match place.package with
    | some p => ast.setMeta "package" (.text p)
    | none => ast
  let superclass := ((t.child? .superclass).bind fun s => s.named.head?).map fun b =>
    [stripTypeArguments (src.text b)]
  let bases := superclass.getD (((t.childOf? .baseClause).map (typeNames src)).getD [])
  let interfaces := ((t.child? .interfaces).map (typeNames src)).getD []
  let ast := withTexts (withTexts ast "extends" bases) "implements" interfaces
  let body := Outline.ofChild (collect { place with owner := some form }) t .body
  let exports : Outline :=
    if exported then { exports := [{ name := name, kind := form.name, line := src.line t }] } else {}
  exports ++ Outline.below (withTexts ast "decorators" mods.annotations) body

def method (place : Place) (t : Tree) : Outline :=
  let mods := modifiers src t
  let visibility := mods.visibility (if place.inInterface then "public" else "package")
  let parameters := ((t.child? .parameters).map fun list =>
    (list.childrenOf .parameter).filterMap fun p => (p.child? .name).map src.text).getD []
  let body := t.child? .body
  let isConstructor := t.tag == .constructorDecl
  let ast := src.node .function (src.nameOf t) t [
    ("visibility", .text visibility), ("exported", .flag (visibility == "public")),
    ("static", .flag (mods.words.contains "static")), ("async", .flag false),
    ("paramCount", .int parameters.length), ("parameters", .texts parameters),
    ("bodyEmpty", .flag (body.any fun b => b.named.isEmpty)),
    ("abstract", .flag body.isNone), ("constructor", .flag isConstructor)]
  let ast := match t.child? .type with
    | some r => if isConstructor then ast else ast.setMeta "returnType" (.text (src.text r))
    | none => ast
  Outline.below (withTexts ast "decorators" mods.annotations)
    (Outline.ofChild (collect place) t .body)

def field (place : Place) (t : Tree) : Outline :=
  let mods := modifiers src t
  let constant := place.inInterface
  let visibility := mods.visibility (if constant then "public" else "package")
  let type := ((t.child? .type).map src.text).getD ""
  let declarators := t.childrenOf .declarator
  Outline.concat <| declarators.map fun d =>
    let ast := src.node .binding (src.nameOf d) (if declarators.length == 1 then t else d) [
      ("visibility", .text visibility),
      ("static", .flag (constant || mods.words.contains "static")),
      ("final", .flag (constant || mods.words.contains "final")), ("fieldType", .text type)]
    match d.child? .value with
    | some v => Outline.ofNode (ast.setMeta "value" (.text (src.text v))) ++ collect place v
    | none => Outline.ofNode ast

def lastPart (dotted : String) : String := (Text.splitOn dotted '.').getLastD dotted

def importDecl (t : Tree) : Outline :=
  match t.child? .name with
  | none => {}
  | some n =>
    let path := src.text n
    let all := (t.childOf? .importAll).isSome
    let source := if all then path ++ ".*" else path
    let specifiers := [if all then "*" else lastPart path]
    let ast := src.importNode source specifiers t
    { nodes := [if t.hasWord "static" then ast.setMeta "static" (.flag true) else ast]
      imports := [{ ImportInfo.new source (src.line t) with specifiers := specifiers }] }

def invocation (place : Place) (t : Tree) : Outline :=
  let before := Outline.ofChild (collect place) t .object
  match t.child? .name with
  | none => before
  | some n =>
    let callee := src.source.text ⟨t.span.start, n.span.stop⟩
    before ++ Outline.ofNode (src.call (src.text n) callee t)
      ++ Outline.ofChild (collect place) t .arguments

/-- Creating an object calls the constructor of its type. -/
def creation (place : Place) (t : Tree) : Outline :=
  let own : Outline := match t.child? .type with
    | none => {}
    | some ty =>
      let type := stripTypeArguments (src.text ty)
      let callee := lastPart type
      Outline.ofNode (src.node .call callee t [("callee", .text callee),
        ("calleeText", .text ("new " ++ type)), ("constructor", .flag true)])
  own ++ Outline.ofChild (collect place) t .arguments
    ++ ((t.childOf? .classBody).map (collect place)).getD {}

end

/-- The outline of a tree; the fuel bounds its height. -/
def walk (src : OutlineSource) (fuel : Nat) (place : Place) (t : Tree) : Outline :=
  match fuel with
  | 0 => {}
  | fuel + 1 =>
    let collect := walk src fuel
    match t.tag with
    | .packageDecl => { package := (t.child? .name).map src.text }
    | .importDecl => importDecl src t
    | .classDecl | .record => declaredType src collect place t .classForm
    | .interfaceDecl => declaredType src collect place t .interfaceForm
    | .annotationType => declaredType src collect place t .annotationForm
    | .enumDecl => declaredType src collect place t .enumForm
    | .method | .constructorDecl => method src collect place t
    | .field => field src collect place t
    | .call => invocation src collect place t
    | .creation => creation src collect place t
    | _ => Outline.concat (t.children.map (collect place))

/-- The outline of a whole file; a package declaration holds for what follows it. -/
def ofModule (src : OutlineSource) (t : Tree) : Outline :=
  t.children.foldl (fun o c => o ++ walk src t.height { package := o.package } c) {}

end CodeAudit.Outline.Java
