import CodeAudit.Analysis.Project
import CodeAudit.Graph.Cycle

/-!
Which files depend on which: the imports between files, those of external packages and those that
lead nowhere, with the number of dependencies in both directions and the cycles.
-/
namespace CodeAudit.Coupling

structure Dependency where
  source : String
  target : String
  line : Nat
  isDynamic : Bool
deriving DecidableEq, Repr

/-- What an import statement turns out to be. -/
inductive ImportTarget where
  | file (path : String)
  | itself
  /-- A relative import of a file that is not there. -/
  | missing
  | package (name : String)
deriving DecidableEq, Repr

/-- The package of a specifier: its first segment, or two of them if it begins with `@`. -/
def packageName (specifier : String) : String :=
  match Text.splitOn specifier '/' with
  | first :: second :: _ => if Text.startsWith first "@" then first ++ "/" ++ second else first
  | _ => specifier

def classify (known : List String) (importer : String) (i : ImportInfo) : ImportTarget :=
  match Path.resolveImport importer i.source known with
  | some target => if target = importer then .itself else .file target
  | none => if i.isRelative then .missing else .package (packageName i.source)

/-- What has been found so far. -/
structure Tally where
  edges : List Dependency := []
  adjacency : Adjacency := []
  fanOut : Keyed String Nat := []
  /-- Each use of a package by a file, repetitions included. -/
  uses : List (String × String) := []
  unresolved : List (String × String) := []
  findings : List Finding := []

structure Report where
  edges : List Dependency
  fanIn : Keyed String Nat
  fanOut : Keyed String Nat
  packages : Keyed String Nat
  unresolved : List (String × String)
  cycles : List (List String)

/-- Takes in one import of a file. A second import of the same file adds nothing. -/
def Tally.addImport (known : List String) (importer : String) (t : Tally) (i : ImportInfo) : Tally :=
  match classify known importer i with
  | .file target =>
    if t.edges.any fun e => e.source = importer ∧ e.target = target then t
    else { t with edges := t.edges ++ [⟨importer, target, i.line, i.isDynamic⟩] }
  | .itself => t
  | .missing => { t with unresolved := t.unresolved ++ [(importer, i.source)] }
  | .package name => { t with uses := t.uses ++ [(name, importer)] }

def couplingFinding (limit : Nat) (file : String) (count : Nat) : Finding :=
  (Finding.new .highCoupling s!"File '{file}' depends on {count} modules (limit {limit})" .medium
      (Location.fileStart file)
    |>.withMetadata "outgoing" (.nat count)).withMetadata "limit" (.nat limit)

/-- The external packages that a file imports, each once. -/
def packagesOf (known : List String) (importer : String) (tree : AstFile) : List String :=
  Text.sortedDistinct (tree.imports.filterMap fun i =>
    match classify known importer i with
    | .package name => some name
    | _ => none)

/-- Takes in the imports of one file. -/
def Tally.addFile (known : List String) (limit : Nat) (t : Tally) (tree : AstFile) : Tally :=
  let importer := Path.normalize tree.path
  let t := tree.imports.foldl (Tally.addImport known importer) t
  let targets := Text.sorted ((t.edges.filter fun e => e.source = importer).map (·.target))
  let count := targets.length + (packagesOf known importer tree).length
  { t with
    adjacency := t.adjacency.insert importer targets
    fanOut := t.fanOut.insert importer count
    findings := t.findings ++ if limit < count then [couplingFinding limit importer count] else [] }

/-- How many files import each file. -/
def Tally.fanIn (t : Tally) : Keyed String Nat :=
  t.adjacency.map fun (file, _) => (file, t.edges.countP fun e => e.target = file)

/-- How many files use each package. -/
def Tally.packages (t : Tally) : Keyed String Nat :=
  (Keyed.groups t.uses).map fun (name, users) => (name, (Text.sortedDistinct users).length)

/-- The cycles, each turned to begin with its smallest file and listed once. -/
def Tally.cycles (t : Tally) : List (List String) := (t.adjacency.cycles.map canonicalCycle).eraseDups

/-- The line of an import, by the text of its two paths. Where two imports have the same text the later one counts. -/
def importLine (edges : List Dependency) (source target : String) : Nat :=
  let key (source target : String) := source ++ "->" ++ target
  ((edges.reverse.find? fun e => key e.source e.target = key source target).map (·.line)).getD 1

def cycleFinding (edges : List Dependency) (cycle : List String) : Finding :=
  let first := cycle.headD ""
  let next := (cycle.drop 1).headD first
  let line := importLine edges first next
  (Finding.new .circularDependency ("Circular dependency: " ++ Text.join " -> " (cycle ++ [first])) .high
      (Location.line first line)
    |>.withMetadata "cycle" (.strings cycle)).withMetadata "length" (.nat cycle.length)

/-- Reads the imports of all parsed files against the files of the project. -/
def analyze (limit : Nat) (p : Project) : Analysis Report :=
  let t := p.parsed.foldl (Tally.addFile p.paths limit) {}
  { report := ⟨t.edges, t.fanIn, t.fanOut, t.packages, t.unresolved, t.cycles⟩
    findings := t.findings ++ t.cycles.map (cycleFinding t.edges) }

/-- The files that a file depends on, in the order of its imports. -/
def Report.dependenciesOf (r : Report) (file : String) : List String :=
  (r.edges.filter fun e => e.source = file).map (·.target)

end CodeAudit.Coupling
