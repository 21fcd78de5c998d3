import CodeAudit.Ast.File
import CodeAudit.Digest
import CodeAudit.Path
import CodeAudit.Graph.Cycle

/-!
The graph of a project: modules, the declarations in them, and the relations between both. Nodes
are kept by id and edges in the order in which they were found.
-/
namespace CodeAudit

inductive EntityKind where
  | moduleFile
  | classType
  | interfaceType
  | function
  | binding
  | typeAlias
  | enumType
  /-- The target of imports that lead to no file of the project. -/
  | external
deriving DecidableEq, Repr, Inhabited

namespace EntityKind

def name : EntityKind → String
  | moduleFile => "module"
  | classType => "class"
  | interfaceType => "interface"
  | function => "function"
  | binding => "variable"
  | typeAlias => "type"
  | enumType => "enum"
  | external => "namespace"

/-- The kind of entity that a declaration of a tree stands for. -/
def ofNode? : NodeKind → Option EntityKind
  | .function => some function
  | .classType => some classType
  | .interfaceType => some interfaceType
  | .typeAlias => some typeAlias
  | .enumType => some enumType
  | .binding => some binding
  | _ => none

/-- Declarations inside such an entity belong to it and carry its name in front of theirs. -/
def isContainer : EntityKind → Bool
  | classType | interfaceType | enumType => true
  | _ => false

end EntityKind

structure Entity where
  id : String
  kind : EntityKind
  name : String
  qualifiedName : String
  language : Language
  location : Location
  contentHash : String
  visibility : Option String := none
  isAsync : Bool := false
  isStatic : Bool := false
  isExported : Bool := false
deriving DecidableEq, Repr, Inhabited

namespace Entity

def file (e : Entity) : String := e.location.file

/-- What an edit of a declaration changes: kind, name, number of lines and signature. Its place in
the file does not count. -/
def signatureParts (kind : EntityKind) (n : AstNode) : List String :=
  let shown (b : Bool) := if b then "true" else "false"
  let traits := "async=" ++ shown n.isAsync ++ " static=" ++ shown n.isStatic ++ " exported=" ++
    shown n.isExported ++ " visibility=" ++ n.visibility?.getD ""
  [kind.name, n.name.getD "", toString n.lineCount, Text.join "," n.parameters, traits,
    Text.join "," n.bases, Text.join "," n.interfaces, (n.text? "value").getD ""]

def ofNode (id : String) (kind : EntityKind) (qualifiedName : String) (language : Language)
    (n : AstNode) : Entity where
  id := id
  kind := kind
  name := n.name.getD ""
  qualifiedName := qualifiedName
  language := language
  location := n.location
  contentHash := Digest.ofParts (signatureParts kind n)
  visibility := n.visibility?
  isAsync := n.isAsync
  isStatic := n.isStatic
  isExported := n.isExported

def ofFile (id qualifiedName : String) (f : AstFile) : Entity where
  id := id
  kind := .moduleFile
  name := Path.baseName qualifiedName
  qualifiedName := qualifiedName
  language := f.language
  location := f.root.location
  contentHash := f.contentHash
  isExported := !f.exports.isEmpty

def externalId (specifier : String) : String := "external:" ++ specifier

def ofSpecifier (specifier : String) : Entity where
  id := externalId specifier
  kind := .external
  name := specifier
  qualifiedName := specifier
  language := .unknown
  location := {}
  contentHash := Digest.ofParts ["external", specifier]
  isExported := true

end Entity

inductive RelationKind where
  | imports
  | calls
  | inherits
  | implements
  | composes
deriving DecidableEq, Repr, Inhabited

def RelationKind.name : RelationKind → String
  | imports => "import"
  | calls => "call"
  | inherits => "inherit"
  | implements => "implement"
  | composes => "compose"

/-- The import statement that an edge was first found at. -/
structure ImportSite where
  specifier : String
  line : Nat
deriving DecidableEq, Repr

structure Relation where
  source : String
  target : String
  kind : RelationKind
  /-- How many imports or calls the edge stands for. -/
  weight : Nat := 1
  /-- Set if all imports behind the edge happen at run time. -/
  conditional : Bool := false
  site : Option ImportSite := none
deriving DecidableEq, Repr

def Relation.id (r : Relation) : String := r.kind.name ++ ":" ++ r.source ++ "->" ++ r.target

/-- Where nodes and edges are found: the ids of the nodes of each file and of each kind, and the places
of the edges that lead from an id and to it. -/
structure GraphIndex where
  byFile : Keyed String (List String)
  byKind : Keyed String (List String)
  outgoing : Keyed String (List Nat)
  incoming : Keyed String (List Nat)

/-- Nodes without a file are in none. -/
def GraphIndex.of (nodes : Keyed String Entity) (edges : List Relation) : GraphIndex where
  byFile := .groups ((nodes.values.filter fun e => e.file ≠ "").map fun e => (e.file, e.id))
  byKind := .groups (nodes.values.map fun e => (e.kind.name, e.id))
  outgoing := .groups (edges.zipIdx.map fun (r, place) => (r.source, place))
  incoming := .groups (edges.zipIdx.map fun (r, place) => (r.target, place))

structure CodeGraph where
  nodes : Keyed String Entity := []
  edges : List Relation := []
  index : GraphIndex := .of nodes edges
  index_eq : index = .of nodes edges := by rfl

structure GraphStatistics where
  nodeCount : Nat
  edgeCount : Nat
  nodesByKind : Keyed String Nat
  edgesByKind : Keyed String Nat
  cycleCount : Nat
  entryPointCount : Nat

namespace CodeGraph

def node? (g : CodeGraph) (id : String) : Option Entity := g.nodes.get? id

/-- All nodes in the order of their ids. -/
def entities (g : CodeGraph) : List Entity := g.nodes.values

/-- The nodes that an index lists. -/
def nodesAt (g : CodeGraph) (ids : Option (List String)) : List Entity := (ids.getD []).filterMap g.node?

/-- The edges that an index lists. -/
def edgesAt (g : CodeGraph) (places : Option (List Nat)) : List Relation :=
  (places.getD []).filterMap fun place => g.edges[place]?

def ofKind (g : CodeGraph) (kind : EntityKind) : List Entity := g.nodesAt (g.index.byKind.get? kind.name)

/-- The nodes with a location in the file. -/
def inFile (g : CodeGraph) (file : String) : List Entity := g.nodesAt (g.index.byFile.get? file)

def outgoing (g : CodeGraph) (id : String) : List Relation := g.edgesAt (g.index.outgoing.get? id)

def incoming (g : CodeGraph) (id : String) : List Relation := g.edgesAt (g.index.incoming.get? id)

def outgoingOf (g : CodeGraph) (id : String) (kind : RelationKind) : List Relation :=
  (g.outgoing id).filter fun r => r.kind = kind

def files (g : CodeGraph) : List String := g.index.byFile.keys

def modules (g : CodeGraph) : List Entity := g.entities.filter fun e => e.kind = .moduleFile

/-- What each module imports, modules and targets in the order of their ids. -/
def importAdjacency (g : CodeGraph) : Adjacency :=
  let modules : Adjacency := Keyed.ofList (g.modules.map fun e => (e.id, ([] : List String)))
  let all := (g.edges.filter fun r => r.kind = .imports).foldl
    (fun (m : Adjacency) r => m.alter r.source fun ts => ts.getD [] ++ [r.target]) modules
  all.map fun (v, ts) => (v, Text.sorted ts)

/-- Cycles of imports. -/
def cycles (g : CodeGraph) : List (List String) := g.importAdjacency.cycles

/-- Exported modules that nothing points at. -/
def entryPoints (g : CodeGraph) : List String :=
  (g.modules.filter fun e => e.isExported && ((g.index.incoming.get? e.id).all (·.isEmpty))).map (·.id)

def statistics (g : CodeGraph) : GraphStatistics where
  nodeCount := g.nodes.length
  edgeCount := g.edges.length
  nodesByKind := Keyed.counts (g.entities.map (·.kind.name))
  edgesByKind := Keyed.counts (g.edges.map (·.kind.name))
  cycleCount := g.cycles.length
  entryPointCount := g.entryPoints.length

end CodeGraph
end CodeAudit
