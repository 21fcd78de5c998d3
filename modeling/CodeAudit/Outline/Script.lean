import CodeAudit.Outline.Basic

/-!
The outline of ECMAScript texts: functions, classes, interfaces, types, bindings, imports, exports and
calls. A binding to a function value is a function, and so is a class field with one.
-/
namespace CodeAudit.Outline.Script

open Syntax

/-- Where a tree stands: right in the module or not, and the decorators in front of it. -/
structure Place where
  atModule : Bool := false
  decorators : List String := []

def isFunctionValue (t : Tree) : Bool := t.tag == .arrow || t.tag == .functionExpr

def opensScope (t : Tag) : Bool :=
  t == .functionDecl || t == .functionExpr || t == .arrow || t == .method

def decoratorText (src : OutlineSource) (t : Tree) : String :=
  String.ofList ((src.text t).toList.dropWhile (· == '@'))

def decorators (src : OutlineSource) (place : Place) (t : Tree) : List String :=
  place.decorators ++ (t.childrenOf .decorator).map (decoratorText src)

def withTexts (n : AstNode) (key : String) (items : List String) : AstNode :=
  if items.isEmpty then n else n.setMeta key (.texts items)

/-- A text without leading groups of three dots. -/
def dropDots : List Char → List Char
  | '.' :: '.' :: '.' :: rest => dropDots rest
  | cs => cs

def parameterNames (src : OutlineSource) (func : Tree) : List String :=
  match func.child? .parameter with
  | some single => [src.text single]
  | none =>
    match func.child? .parameters with
    | none => []
    | some list =>
      (list.childrenOf .parameter).filterMap fun p =>
        (p.child? .pattern).bind fun target =>
          let name := String.ofList (dropDots (src.text target).toList)
          if name == "this" then none else some name

section

variable (src : OutlineSource) (collect : Tree → Outline)

def visibilityOf (t : Tree) : String := ((t.childOf? .visibility).map src.text).getD "public"

/-- A function placed at `node`, whose parameters and body are those of `func`. -/
def function (place : Place) (node func : Tree) (name : String) (exported : Bool) : Outline :=
  let parameters := parameterNames src func
  let body := func.child? .body
  let bodyEmpty := body.any fun b => b.tag == .block && (codeChildren b).isEmpty
  let hasAwait := body.any fun b => b.tag == .await || b.contains (· == .await) opensScope
  let ast := src.node .function name node [
    ("async", .flag (func.hasWord "async")), ("exported", .flag exported),
    ("paramCount", .int parameters.length), ("parameters", .texts parameters),
    ("hasAwait", .flag hasAwait), ("bodyEmpty", .flag bodyEmpty)]
  let ast :=
    if func.tag == .method then
      let ast := (ast.setMeta "static" (.flag (func.hasWord "static"))).setMeta "visibility"
        (.text (visibilityOf src func))
      if func.hasWord "get" then ast.setMeta "accessor" (.text "get")
      else if func.hasWord "set" then ast.setMeta "accessor" (.text "set")
      else ast
    else ast
  let ast := if func.tag == .arrow then ast.setMeta "arrow" (.flag true) else ast
  let ast := withTexts ast "decorators" (decorators src place func)
  Outline.below ast ((body.map collect).getD {})

def heritage (ast : AstNode) (t : Tree) : AstNode :=
  match t.childOf? .heritage with
  | none => ast
  | some clauses =>
    let bases := clauses.named.flatMap fun clause =>
      match clause.tag with
      | .baseClause => ((clause.child? .value).map src.text).toList
      | .interfaceClause => []
      | _ => [src.text clause]
    let interfaces := clauses.named.flatMap fun clause =>
      if clause.tag == .interfaceClause then
        clause.named.map fun t => stripTypeArguments (src.text t)
      else []
    withTexts (withTexts ast "extends" bases) "implements" interfaces

def classType (place : Place) (t : Tree) (exported : Bool) : Outline :=
  let ast := src.node .classType (src.nameOf t) t
    [("exported", .flag exported), ("abstract", .flag (t.tag == .abstractClass))]
  let ast := withTexts (heritage src ast t) "decorators" (decorators src place t)
  Outline.below ast (Outline.ofChild collect t .body)

def interfaceType (t : Tree) (exported : Bool) : Outline :=
  let ast := src.node .interfaceType (src.nameOf t) t [("exported", .flag exported)]
  let bases := ((t.childOf? .baseClause).map fun clause =>
    clause.named.map fun b => stripTypeArguments (src.text b)).getD []
  Outline.ofNode (withTexts ast "extends" bases)

def typeLike (t : Tree) (exported : Bool) : Outline :=
  let kind := if t.tag == .enumDecl then NodeKind.enumType else .typeAlias
  let ast := src.node kind (src.nameOf t) t [("exported", .flag exported)]
  Outline.ofNode <| match t.child? .value with
    | some v => ast.setMeta "value" (.text (src.text v))
    | none => ast

def declaration (place : Place) (t : Tree) (exported : Bool) : Outline :=
  let declarators := t.childrenOf .declarator
  Outline.concat <| declarators.map fun d =>
    let name := src.nameOf d
    let binding := src.node .binding name d
      [("exported", .flag exported), ("const", .flag (t.hasWord "const"))]
    match d.child? .value with
    | some v =>
      if isFunctionValue v then
        function src collect {} (if declarators.length == 1 then t else d) v name exported
      else if place.atModule then
        Outline.ofNode (binding.setMeta "value" (.text (src.text v))) ++ collect v
      else collect v
    | none => if place.atModule then Outline.ofNode binding else {}

def field (t : Tree) : Outline :=
  match t.child? .value with
  | some v =>
    if isFunctionValue v then
      let o := function src collect {} t v (src.nameOf t) false
      let mark (n : AstNode) : AstNode :=
        (n.setMeta "static" (.flag (t.hasWord "static"))).setMeta "visibility"
          (.text (visibilityOf src t))
      { o with nodes := o.nodes.map mark }
    else collect v
  | none => {}

def importDecl (t : Tree) : Outline :=
  match t.child? .source with
  | none => {}
  | some quoted =>
    let source := unquote (src.text quoted)
    let parts := ((t.childOf? .importClause).map Tree.named).getD []
    let specifiers := parts.flatMap fun part =>
      match part.tag with
      | .identifier => [src.text part]
      | .namespaceImport => ((part.childOf? .identifier).map src.text).toList
      | .namedImports => (part.childrenOf .importSpecifier).filterMap fun spec =>
          ((spec.child? .alias).or (spec.child? .name)).map src.text
      | _ => []
    let whole := (parts.filter fun p => p.tag == .identifier).getLast?.map src.text
    let ast := src.importNode source specifiers t
    { nodes := [match whole with
        | some name => ast.setMeta "default" (.text name)
        | none => ast]
      imports := [{ ImportInfo.new source (src.line t) with specifiers := specifiers }] }

/-- Names given by a clause, or everything under `*`, from a source or from this module. -/
def exportedNames (t : Tree) : Outline :=
  let source := (t.child? .source).map fun q => unquote (src.text q)
  let line := src.line t
  let (names, exports) : List String × List ExportInfo := match t.childOf? .exportClause with
    | some clause =>
      let specs := (clause.childrenOf .exportSpecifier).filterMap fun spec =>
        (spec.child? .name).map fun name =>
          (src.text name, src.text ((spec.child? .alias).getD name))
      (specs.map Prod.fst, specs.map fun (_, exported) =>
        { name := exported, kind := if source.isSome then "reexport" else "binding",
          isDefault := exported == "default", line := line })
    | none =>
      if source.isSome then
        (["*"], [{ name := "*", kind := "reexport", isDefault := false, line := line }])
      else ([], [])
  match source with
  | none => { exports := exports }
  | some source =>
    { nodes := [src.node .exportDecl source t [("source", .text source), ("specifiers", .texts names)]]
      imports := [{ ImportInfo.new source line with specifiers := names }]
      exports := exports }

def exportDecl (place : Place) (t : Tree) : Outline :=
  let line := src.line t
  let isDefault := t.hasWord "default"
  match t.child? .declaration with
  | some d =>
    let inner : Place := { place with decorators := (t.childrenOf .decorator).map (decoratorText src) }
    let o := match d.tag with
      | .functionDecl => function src collect inner d d (src.nameOf d) true
      | .classDecl | .abstractClass | .classExpr => classType src collect inner d true
      | .interfaceDecl => interfaceType src d true
      | .typeAlias | .enumDecl => typeLike src d true
      | .declaration => declaration src collect inner d true
      | _ => collect d
    let exports := (o.nodes.filter fun n => n.kind != .call && n.kind != .importDecl).map fun n =>
      { name := if isDefault then "default" else n.name.getD "", kind := n.kind.name,
        isDefault := isDefault, line := line : ExportInfo }
    { o with exports := o.exports ++ exports }
  | none =>
    match t.child? .value with
    | some v =>
      let exported (kind : String) : Outline :=
        { exports := [{ name := "default", kind := kind, isDefault := true, line := line }] }
      if isFunctionValue v then
        function src collect {} t v (((v.child? .name).map src.text).getD "default") true
          ++ exported "function"
      else collect v ++ exported "expression"
    | none => exportedNames src t

/-- A call, its callee's own calls before it and those of its arguments after it. Loading a module by
a literal name is an import instead. -/
def call (t : Tree) : Outline :=
  match t.child? .callee with
  | none => {}
  | some callee =>
    let first := (t.child? .arguments).bind fun arguments => arguments.named.head?
    let literal := (first.filter fun t => t.tag == .string || t.tag == .template).map fun t =>
      unquote (src.text t)
    let loaded (isDynamic : Bool) (source : String) : Outline :=
      { imports := [{ ImportInfo.new source (src.line t) with isDynamic := isDynamic }] }
    if callee.tag == .importKeyword then (literal.map (loaded true)).getD {}
    else if callee.tag == .identifier && src.text callee == "require" && literal.isSome then
      (literal.map (loaded false)).getD {}
    else
      let name := match callee.tag with
        | .member => (callee.child? .property).map src.text
        | .identifier => some (src.text callee)
        | _ => none
      let own : Outline := match name with
        | some name => Outline.ofNode (src.call name (src.text callee) t)
        | none => {}
      collect callee ++ own ++ Outline.ofChild collect t .arguments

end

/-- The children in order, each with the decorators right before it. -/
def placed (src : OutlineSource) (atModule : Bool) (decorators : List String) :
    List Tree → List (Place × Tree)
  | [] => []
  | t :: rest =>
    ({ atModule := atModule, decorators := decorators }, t) ::
      placed src atModule
        (if t.tag == .decorator then decorators ++ [decoratorText src t]
          else if t.isNamed then [] else decorators) rest

/-- The outline of a tree; the fuel bounds its height. -/
def walk (src : OutlineSource) (fuel : Nat) (place : Place) (t : Tree) : Outline :=
  match fuel with
  | 0 => {}
  | fuel + 1 =>
    let collect := walk src fuel {}
    match t.tag with
    | .functionDecl | .method => function src collect place t t (src.nameOf t) false
    | .classDecl | .abstractClass | .classExpr => classType src collect place t false
    | .interfaceDecl => interfaceType src t false
    | .typeAlias | .enumDecl => typeLike src t false
    | .declaration => declaration src collect place t false
    | .field => field src collect t
    | .importDecl => importDecl src t
    | .exportDecl => exportDecl src collect place t
    | .call => call src collect t
    | _ => Outline.concat ((placed src false [] t.children).map fun (place, c) => walk src fuel place c)

/-- The outline of a whole module. -/
def ofModule (src : OutlineSource) (t : Tree) : Outline :=
  Outline.concat ((placed src true [] t.children).map fun (place, c) => walk src t.height place c)

end CodeAudit.Outline.Script
