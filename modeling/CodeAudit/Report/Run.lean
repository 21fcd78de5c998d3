import CodeAudit.Audit.Summary
import CodeAudit.Report.Languages

/-!
The text of an audit report: the findings, the gravest first, then the summary and how the run ended.
-/
namespace CodeAudit.Report

def severityLabel (s : Severity) : String := padRight 8 s.name

/-- The gravest first; then by file, line and rule. -/
def resultLe (a b : NormalizedResult) : Bool :=
  if a.severity != b.severity then b.severity ≤ a.severity
  else if a.file != b.file then Text.leBool a.file b.file
  else if a.lineStart != b.lineStart then a.lineStart ≤ b.lineStart
  else Text.leBool a.rule b.rule

def ordered (rs : List NormalizedResult) : List NormalizedResult := rs.mergeSort resultLe

/-- A line below a finding, if there is something to say. -/
def remark (label : String) : Option String → List String
  | some text => ["         " ++ label ++ " " ++ text]
  | none => []

def resultLines (r : NormalizedResult) : List String :=
  (severityLabel r.severity ++ s!" {r.file}:{r.lineStart} {r.rule} {r.message}")
    :: remark "fix:" r.suggestion ++ remark "ai:" r.assistance.explanation

def summaryLines (s : RunSummary) (durationMs : Nat) : List String :=
  let c := s.counters
  let severities := Severity.all.filterMap fun v => (s.countOf v).map fun n => s!"    {severityLabel v} {n}"
  let categories := s.byCategory.map fun (k, n) => s!"    {padRight 12 k} {n}"
  let shares := s.topLanguages.map fun l => l.language.name ++ " " ++ percent l.percentage ++ "%"
  ["Summary",
   s!"  files: {c.filesAnalyzed} analyzed, {c.filesSkipped} skipped, {c.parseErrors} parse errors",
   s!"  findings: {s.totalFindings}"]
    ++ severities ++ categories
    ++ (if shares.isEmpty then [] else ["  languages: " ++ Text.join ", " shares])
    ++ [s!"  cache: {c.cacheHits} hits, {c.cacheMisses} misses; {durationMs} ms"]

def outcomeLine (r : AuditReport) : String :=
  match r.error with
  | none => "Analysis completed"
  | some e => "Analysis failed: " ++ e

/-- All lines of a report; the duration is that of the whole run. -/
def reportLines (r : AuditReport) (durationMs : Nat) : List String :=
  [s!"Project {r.project} ({r.execution})"] ++ (ordered r.results).flatMap resultLines ++ [""]
    ++ summaryLines r.summary durationMs ++ [outcomeLine r]

def text (r : AuditReport) (durationMs : Nat) : String :=
  String.join ((reportLines r durationMs).map (· ++ "\n"))

end CodeAudit.Report
