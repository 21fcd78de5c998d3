import CodeAudit.Analysis.Calling
import CodeAudit.Analysis.Complexity
import CodeAudit.Analysis.Coupling
import CodeAudit.Analysis.Layering

/-!
The reports of the analyses as JSON. Tables keyed by text become objects.
-/
namespace CodeAudit

/-- Counts as an object. -/
def Keyed.countsJson (m : Keyed String Nat) : Json := .obj (m.map fun (k, n) => (k, .nat n))

def Complexity.Report.toJson (r : Complexity.Report) : Json :=
  let function (f : FunctionRecord) := Json.object
    [("file_path", .str f.file), ("name", .str f.name), ("class_name", .ofOption .str f.className),
     ("line", .nat f.line), ("line_count", .nat f.lineCount), ("complexity", .nat f.complexity)]
  let file (f : FileRecord) := Json.object
    [("file_path", .str f.file), ("line_count", .nat f.lineCount), ("function_count", .nat f.functionCount),
     ("average_complexity", .float f.average), ("max_complexity", .nat f.maximum)]
  Json.object [("functions", .ofList function r.functions), ("files", .ofList file r.files)]

def Layering.Report.toJson (r : Layering.Report) : Json :=
  let layer (l : Layer) := Json.str l.name
  let moduleJson (m : ModuleRecord) := Json.object
    [("path", .str m.path), ("files", .strings m.files), ("depth", .nat m.depth),
     ("layer", .ofOption layer m.layer)]
  let crossing (c : Crossing) := Json.object
    [("from_file", .str c.source), ("to_file", .str c.target), ("from_layer", layer c.sourceLayer),
     ("to_layer", layer c.targetLayer), ("line", .nat c.line)]
  let layers := (Layer.all.map fun l => (l.name, r.ofLayer l)).filter fun e => !e.2.isEmpty
  Json.object [("modules", .ofList moduleJson r.modules), ("violations", .ofList crossing r.crossings),
    ("layers", Json.object (layers.map fun (l, dirs) => (l, .strings dirs))), ("max_depth", .nat r.maxDepth)]

def Coupling.Report.toJson (r : Coupling.Report) : Json :=
  let edge (e : Dependency) := Json.object
    [("from", .str e.source), ("to", .str e.target), ("line", .nat e.line), ("is_dynamic", .bool e.isDynamic)]
  Json.object [("edges", .ofList edge r.edges), ("fan_in", r.fanIn.countsJson), ("fan_out", r.fanOut.countsJson),
    ("external_packages", r.packages.countsJson), ("cycles", .ofList .strings r.cycles),
    ("unresolved", .ofList (fun (file, source) => .strings [file, source]) r.unresolved)]

def Calling.Report.toJson (r : Calling.Report) : Json :=
  let function (f : FunctionRecord) := Json.object
    [("id", .str f.id), ("name", .str f.name), ("file_path", .str f.file),
     ("class_name", .ofOption .str f.className), ("line", .nat f.location.startLine),
     ("is_exported", .bool f.isExported), ("is_entry_point", .bool f.isEntryPoint)]
  let call (c : CallRecord) := Json.object
    [("file_path", .str c.file), ("caller", .str c.caller), ("callee", .str c.callee),
     ("line", .nat c.line), ("resolved", .bool c.isResolved)]
  Json.object [("functions", .ofList function r.functions), ("calls", .ofList call r.calls),
    ("edges", .obj (r.edges.map fun (id, callees) => (id, .strings callees))),
    ("entry_points", .strings r.entryPoints), ("dead_functions", .strings r.deadFunctions),
    ("deep_chains", .ofList .strings r.deepChains)]

end CodeAudit
