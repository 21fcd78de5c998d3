import CodeAudit.Audit.Run
import CodeAudit.Config.Reader
import CodeAudit.Config.Writer
import CodeAudit.Report.Record
import CodeAudit.Report.Run
import CodeAudit.Sources.Collect

/-!
The command line: what the arguments ask for, and the text and exit code that answer it. The names of
the files below a root come from outside.
-/
namespace CodeAudit

inductive ReportFormat where
  | pretty
  | json
deriving DecidableEq, Repr

structure ScanRequest where
  root : String
  format : ReportFormat := .pretty
  exclude : List String := []
  caching : Bool := true
  complexityThreshold : Option Nat := none
  failOn : Option Severity := none
  project : Option String := none
deriving DecidableEq, Repr

inductive Command where
  | scan (request : ScanRequest)
  | languages (root : String)
  | writeConfig (path : String)
deriving DecidableEq, Repr

/-- What is printed and what the program ends with. -/
structure Answer where
  output : String
  exitCode : Nat := 0
deriving DecidableEq, Repr

namespace ScanRequest

/-- Reads the options after the root. -/
def withOptions (r : ScanRequest) : List String → Except String ScanRequest
  | [] => .ok r
  | "--no-cache" :: rest => withOptions { r with caching := false } rest
  | "--format" :: value :: rest =>
    match value with
    | "pretty" => withOptions { r with format := .pretty } rest
    | "json" => withOptions { r with format := .json } rest
    | _ => .error s!"invalid format: {value}"
  | "--exclude" :: value :: rest => withOptions { r with exclude := r.exclude ++ [value] } rest
  | "--project-id" :: value :: rest => withOptions { r with project := some value } rest
  | "--complexity-threshold" :: value :: rest =>
    match Config.parseNat? bound32 value with
    | some n => withOptions { r with complexityThreshold := some n } rest
    | none => .error s!"invalid complexity threshold: {value}"
  | "--fail-on" :: value :: rest =>
    match Severity.parse value with
    | .ok s => withOptions { r with failOn := some s } rest
    | .error why => .error why
  | option :: _ => .error s!"unexpected argument: {option}"

/-- The settings of a scan: its own ones go before those of a file. -/
def settings (r : ScanRequest) (c : Config) : Except ConfigError Config :=
  let p := c.pipeline
  Config.validate
    { c with
      pipeline :=
        { p with
          excludePatterns := p.excludePatterns ++ r.exclude
          enableCaching := p.enableCaching && r.caching
          complexityThreshold := r.complexityThreshold.getD p.complexityThreshold } }

def projectName (r : ScanRequest) : String := r.project.getD ((Path.fileName? r.root).getD "project")

/-- Audits the files below the root. -/
def audit (r : ScanRequest) (c : Config) (tree : Option TreeEntry) : Except String AuditReport := do
  let c ← (r.settings c).mapError (·.message)
  let a ← (Auditor.ofConfig c.pipeline).mapError (·.message)
  let collected := Collect.run ⟨c.pipeline.excludePatterns, c.pipeline.maxFileSize⟩ r.root tree
  return (a.runCollected (a.initialState none) r.projectName (collected.mapError (·.message))).1

def answer (r : ScanRequest) (report : AuditReport) (durationMs : Nat) : Answer where
  output := match r.format with
    | .pretty => Report.text report durationMs
    | .json => report.toJson.pretty 0 ++ "\n"
  exitCode := report.exitCode r.failOn

end ScanRequest

namespace Command

def usage : String :=
  Text.join "\n"
    ["usage: scan ROOT [--format pretty|json] [--exclude PATTERN] [--no-cache]",
     "            [--complexity-threshold N] [--fail-on SEVERITY] [--project-id ID]",
     "       languages ROOT",
     "       init [PATH]",
     "The names of the files below ROOT are read from standard input, one per line."]

def ofArguments : List String → Except String Command
  | "scan" :: root :: options => (ScanRequest.withOptions { root := root } options).map .scan
  | ["languages", root] => .ok (.languages root)
  | ["init"] => .ok (.writeConfig ".codescan.toml")
  | ["init", path] => .ok (.writeConfig path)
  | _ => .error usage

/-- The table of languages of the files below a root. -/
def languageTable (root : String) (tree : Option TreeEntry) : Except String Answer := do
  let files ← (Collect.run {} root tree).mapError (·.message)
  return { output := Report.languages (.ofMappings (files.map .ofFile) files) }

end Command
end CodeAudit
