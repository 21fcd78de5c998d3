import CodeAudit.Graph.Basic
import CodeAudit.Path.Import

/-!
Building the graph of a project. Files are added one after the other; each gives a module, the
declarations in it and references by name. Once all files are there the references are resolved.
-/
namespace CodeAudit

/-- An import that a file states. -/
structure ImportReference where
  moduleId : String
  path : String
  statement : ImportInfo

/-- The name of a base type or an interface. -/
structure HeritageReference where
  source : String
  moduleId : String
  target : String
  kind : RelationKind

/-- The name that a call site calls. -/
structure CallReference where
  source : String
  moduleId : String
  callee : String

/-- The two ends of an edge, ordered by source and then target. -/
structure Ends where
  source : String
  target : String
deriving DecidableEq

instance : LT Ends where
  lt a b := a.source < b.source ∨ (a.source = b.source ∧ a.target < b.target)

instance : DecidableLT Ends := fun a b =>
  inferInstanceAs (Decidable (a.source < b.source ∨ (a.source = b.source ∧ a.target < b.target)))

/-- Where a walk through a file stands. -/
structure GraphScope where
  language : Language
  moduleId : String
  moduleName : String
  /-- The entity that new declarations belong to. -/
  container : String
  /-- The names of the enclosing containers, each with a dot after it. -/
  qualifier : String := ""
  /-- The function that owns the calls; inside it no declaration counts. -/
  function : Option String := none

/-- A graph in the making. -/
structure GraphDraft where
  nodes : Keyed String Entity := []
  compositions : List Relation := []
  /-- The module of each file, by its path in normal form. -/
  modules : Keyed String String := []
  counts : IdCounts := []
  imports : List ImportReference := []
  heritage : List HeritageReference := []
  calls : List CallReference := []

/-- Counts a base from one again. -/
def IdCounts.restart (counts : IdCounts) (base : String) : IdCounts :=
  match counts with
  | [] => [(base, 1)]
  | (b, n) :: rest => if b = base then (b, 1) :: rest else (b, n) :: restart rest base

namespace GraphDraft

/-- The base types and interfaces that a class or interface names. -/
def heritageOf (s : GraphScope) (id : String) (kind : EntityKind) (n : AstNode) :
    List HeritageReference :=
  if kind = .classType ∨ kind = .interfaceType then
    n.bases.map (⟨id, s.moduleId, ·, .inherits⟩) ++
      n.interfaces.map (⟨id, s.moduleId, ·, .implements⟩)
  else []

/-- The scope inside a declaration. -/
def scopeInside (s : GraphScope) (id name : String) (kind : EntityKind) : GraphScope :=
  if kind.isContainer then { s with container := id, qualifier := s.qualifier ++ name ++ "." }
  else if kind = .function then { s with function := some id }
  else s

/-- Adds the entity of a named declaration under its container. -/
def declare (d : GraphDraft) (s : GraphScope) (kind : EntityKind) (name : String) (n : AstNode) :
    GraphScope × GraphDraft :=
  let qualified := s.moduleName ++ "::" ++ s.qualifier ++ name
  let (id, counts) := d.counts.allocate (s.language.name ++ ":" ++ qualified)
  let entity := Entity.ofNode id kind qualified s.language n
  (scopeInside s id name kind,
    { d with
      counts := counts
      nodes := d.nodes.insert id entity
      compositions := d.compositions ++ [⟨s.container, id, .composes, 1, false, none⟩]
      heritage := d.heritage ++ heritageOf s id kind n })

/-- Takes in one node and gives the scope for its children. Declarations inside a function belong
to the function and are no entities. -/
def enter (d : GraphDraft) (s : GraphScope) (n : AstNode) : GraphScope × GraphDraft :=
  if n.kind = .call then
    match n.callee? with
    | some callee =>
      (s, { d with calls := d.calls ++ [⟨s.function.getD s.container, s.moduleId, callee⟩] })
    | none => (s, d)
  else
    match EntityKind.ofNode? n.kind, n.name, s.function with
    | some kind, some name, none => d.declare s kind name n
    | _, _, _ => (s, d)

mutual

def walk (s : GraphScope) (d : GraphDraft) (n : AstNode) : GraphDraft :=
  match n with
  | ⟨id, kind, name, location, children, parent, metadata⟩ =>
    let (s, d) := d.enter s ⟨id, kind, name, location, children, parent, metadata⟩
    walkAll s d children

def walkAll (s : GraphScope) (d : GraphDraft) : List AstNode → GraphDraft
  | [] => d
  | n :: rest => walkAll s (walk s d n) rest

end

/-- Adds a file; one whose path in normal form has been added before is left out. -/
def addFile (d : GraphDraft) (f : AstFile) : GraphDraft :=
  let path := Path.normalize f.path
  if d.modules.contains path then d
  else
    let name := Path.withoutExtension path
    let id := f.language.name ++ ":" ++ name
    let scope : GraphScope := { language := f.language, moduleId := id, moduleName := name, container := id }
    let d := { d with
      nodes := d.nodes.insert id (Entity.ofFile id name f)
      modules := d.modules.insert path id
      counts := d.counts.restart id
      imports := d.imports ++ f.imports.map (⟨id, path, ·⟩) }
    walkAll scope d f.root.children

def addFiles (d : GraphDraft) (files : List AstFile) : GraphDraft := files.foldl addFile d

/-- The module that an import leads to. -/
def importedModule? (d : GraphDraft) (r : ImportReference) : Option String :=
  (Path.resolveImport r.path r.statement.source d.modules.keys).bind d.modules.get?

def importTarget (d : GraphDraft) (r : ImportReference) : String :=
  (d.importedModule? r).getD (Entity.externalId r.statement.source)

/-- An entity for each import that leads to no module. -/
def addExternals (d : GraphDraft) : GraphDraft :=
  let specifiers := (d.imports.filter fun r => (d.importedModule? r).isNone).map (·.statement.source)
  { d with nodes := specifiers.foldl (fun ns s => ns.insertNew (Entity.externalId s) (.ofSpecifier s)) d.nodes }

/-- Merges one more import into the edge between the same modules. -/
def mergeImport (r : ImportReference) (e : Ends) : Option Relation → Relation
  | none => ⟨e.source, e.target, .imports, 1, r.statement.isDynamic, some ⟨r.statement.source, r.statement.line⟩⟩
  | some edge => { edge with
      weight := edge.weight + 1
      conditional := edge.conditional && r.statement.isDynamic }

def importEdges (d : GraphDraft) : List Relation :=
  let merged : Keyed Ends Relation := d.imports.foldl (fun m r =>
    let e : Ends := ⟨r.moduleId, d.importTarget r⟩
    m.alter e (mergeImport r e)) []
  merged.values

/-- The module that an id of a declaration begins with. -/
def moduleOf (id : String) : String :=
  match Text.cut? id "::" with
  | some (moduleId, _) => moduleId
  | none => id

/-- The entity of one of the kinds that a name denotes: one of the same module, else the only one
there is. -/
def resolveName? (d : GraphDraft) (kinds : List EntityKind) (moduleId name : String) : Option String :=
  let named := d.nodes.values.filter fun e => kinds.contains e.kind && e.name == name
  match named.find? fun e => moduleOf e.id == moduleId with
  | some e => some e.id
  | none =>
    match named with
    | [e] => some e.id
    | _ => none

/-- The name of a type without type arguments and qualifiers. -/
def bareName (target : String) : String :=
  let head := match Text.cut? target "<" with
    | some (head, _) => head
    | none => target
  Text.trim (match Text.cutLast? head "." with
    | some (_, last) => last
    | none => head)

def heritageEdges (d : GraphDraft) : List Relation :=
  d.heritage.filterMap fun h =>
    match d.resolveName? [.classType, .interfaceType] h.moduleId (bareName h.target) with
    | some target =>
      if target = h.source then none else some ⟨h.source, target, h.kind, 1, false, none⟩
    | none => none

def callEdges (d : GraphDraft) : List Relation :=
  let resolved := d.calls.filterMap fun c =>
    (d.resolveName? [.function] c.moduleId c.callee).map fun target => (⟨c.source, target⟩ : Ends)
  (Keyed.counts resolved).map fun (e, n) => ⟨e.source, e.target, .calls, n, false, none⟩

/-- Resolves all references. -/
def build (d : GraphDraft) : CodeGraph :=
  let d := d.addExternals
  { nodes := d.nodes
    edges := d.compositions ++ d.importEdges ++ d.heritageEdges ++ d.callEdges }

end GraphDraft

/-- The graph of a list of files. -/
def CodeGraph.ofFiles (files : List AstFile) : CodeGraph := (GraphDraft.addFiles {} files).build

end CodeAudit
