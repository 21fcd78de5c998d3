import CodeAudit.Analysis.Project
import CodeAudit.Keyed

/-!
Directories as modules: how deep they lie, how many files they hold, and which architectural layer
their names tell. An import may only lead to a layer that the importing one may depend on.
-/
namespace CodeAudit

inductive Layer where
  | presentation
  | application
  | domain
  | infrastructure
deriving DecidableEq, Repr, Inhabited

namespace Layer

def all : List Layer := [presentation, application, domain, infrastructure]

def name : Layer → String
  | presentation => "presentation"
  | application => "application"
  | domain => "domain"
  | infrastructure => "infrastructure"

def keywords : Layer → List String
  | presentation =>
    ["presentation", "ui", "views", "controllers", "components", "pages", "routes", "handlers",
     "api", "web"]
  | application => ["application", "services", "usecases"]
  | domain => ["domain", "models", "entities", "core"]
  | infrastructure => ["infrastructure", "infra", "repositories", "db", "persistence", "adapters"]

/-- The layers that a layer may import from, besides itself. -/
def dependencies : Layer → List Layer
  | presentation => [application, domain]
  | application => [domain, infrastructure]
  | infrastructure => [domain]
  | domain => []

def mayDependOn (a b : Layer) : Bool := a == b || a.dependencies.contains b

def ofDirectory? (name : String) : Option Layer :=
  all.find? fun l => l.keywords.contains (Text.asciiLowerCase name)

/-- The layer of the outermost directory that names one; the file name itself does not count. -/
def ofPath? (path : String) : Option Layer :=
  (Text.splitOn (Path.normalize path) '/').dropLast.findSome? ofDirectory?

end Layer

namespace Layering

structure ModuleRecord where
  /-- The directory, empty for the root of the project. -/
  path : String
  files : List String
  depth : Nat
  layer : Option Layer
deriving DecidableEq, Repr

/-- An import that crosses layers the wrong way. -/
structure Crossing where
  source : String
  target : String
  sourceLayer : Layer
  targetLayer : Layer
  line : Nat
deriving DecidableEq, Repr

structure Report where
  modules : List ModuleRecord
  crossings : List Crossing

namespace Report

def maxDepth (r : Report) : Nat := (r.modules.map (·.depth)).foldl max 0

/-- The directories of a layer. -/
def ofLayer (r : Report) (l : Layer) : List String :=
  (r.modules.filter fun m => m.layer = some l).map (·.path)

end Report

/-- The number of directories on the way; those that climb up do not count. -/
def depth (directory : String) : Nat :=
  if directory = "" then 0 else (Text.splitOn directory '/').countP (· ≠ "..")

/-- The files of each directory, sorted and without repetition. -/
def modules (p : Project) : List ModuleRecord :=
  (Keyed.groups (p.paths.map fun path => (Path.directory path, path))).map fun (dir, files) =>
    let files := Text.sortedDistinct files
    { path := dir, files := files, depth := depth dir, layer := files.head?.bind Layer.ofPath? }

/-- Where an import leads, whether or not there is such a file. -/
def importedPath (known : List String) (importer source : String) : String :=
  (Path.resolveImport importer source known).getD
    (Path.normalize (Path.directory importer ++ "/" ++ source))

def crossingsOf (known : List String) (tree : AstFile) : List Crossing :=
  let source := Path.normalize tree.path
  match Layer.ofPath? source with
  | none => []
  | some sourceLayer =>
    (tree.imports.filter (·.isRelative)).filterMap fun i =>
      let target := importedPath known source i.source
      match Layer.ofPath? target with
      | none => none
      | some targetLayer =>
        if sourceLayer.mayDependOn targetLayer then none
        else some ⟨source, target, sourceLayer, targetLayer, i.line⟩

def moduleFindings (maxDepth maxFiles : Nat) (m : ModuleRecord) : List Finding :=
  let place := Location.fileStart (m.files.headD "")
  let count := m.files.length
  (if maxDepth < m.depth then
    [(Finding.new .deepNesting
        s!"Directory '{m.path}' is nested {m.depth} levels deep (limit {maxDepth})" .low place
      |>.withMetadata "module" (.str m.path)).withMetadata "depth" (.nat m.depth)] else []) ++
  (if maxFiles < count then
    [(Finding.new .fatModule
        s!"Module '{m.path}' contains {count} files (limit {maxFiles})" .medium place
      |>.withMetadata "module" (.str m.path)).withMetadata "fileCount" (.nat count)] else [])

def crossingFinding (c : Crossing) : Finding :=
  ((Finding.new .layerViolation
      s!"{c.sourceLayer.name} layer must not depend on {c.targetLayer.name} layer ({c.source} imports {c.target})"
      .high (Location.line c.source c.line)).withMetadata "fromLayer" (.str c.sourceLayer.name)
    |>.withMetadata "toLayer" (.str c.targetLayer.name)).withMetadata "target" (.str c.target)

def analyze (maxDepth maxFiles : Nat) (p : Project) : Analysis Report :=
  let report : Report := ⟨modules p, p.parsed.flatMap (crossingsOf p.paths)⟩
  { report := report
    findings := report.modules.flatMap (moduleFindings maxDepth maxFiles) ++
      report.crossings.map crossingFinding }

end Layering
end CodeAudit
