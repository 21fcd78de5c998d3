import CodeAudit.Audit.Recovery
import CodeAudit.Finding.Basic
import CodeAudit.Graph.Basic
import CodeAudit.Language.Statistics

/-!
The outcome of a run and its summary: how many results there are of each severity and category, and
what was done to get them.
-/
namespace CodeAudit

/-- What a run counts besides its results. -/
structure RunCounters where
  filesAnalyzed : Nat := 0
  filesSkipped : Nat := 0
  parseErrors : Nat := 0
  cacheHits : Nat := 0
  cacheMisses : Nat := 0
deriving DecidableEq, Repr

structure RunSummary where
  totalFindings : Nat := 0
  /-- Severities that occur, the gravest last. -/
  bySeverity : List (Severity × Nat) := []
  byCategory : Keyed String Nat := []
  topLanguages : List LanguageShare := []
  counters : RunCounters := {}

structure AuditReport where
  project : String
  execution : String
  results : List NormalizedResult := []
  progress : List StageProgress := []
  summary : RunSummary := {}
  faults : List Fault := []
  languages : Option LanguageStatistics := none
  graph : Option GraphStatistics := none
  error : Option String := none

namespace RunSummary

/-- How many languages a summary shows. -/
def shownLanguages : Nat := 5

def build (results : List NormalizedResult) (languages : Option LanguageStatistics)
    (counters : RunCounters) : RunSummary where
  totalFindings := results.length
  bySeverity := (Severity.all.reverse.map fun s => (s, results.countP fun r => r.severity = s)).filter
    fun e => 0 < e.2
  byCategory := Keyed.counts (results.map (·.main.name))
  topLanguages := (languages.map fun s => s.top shownLanguages).getD []
  counters := counters

def countAtLeast (s : RunSummary) (severity : Severity) : Nat :=
  total ((s.bySeverity.filter fun e => severity ≤ e.1).map (·.2))

def countOf (s : RunSummary) (severity : Severity) : Option Nat := s.bySeverity.lookup severity

end RunSummary

namespace AuditReport

def isSuccess (r : AuditReport) : Bool := r.error.isNone

def findingsAtLeast (r : AuditReport) (severity : Severity) : List NormalizedResult :=
  r.results.filter fun x => severity ≤ x.severity

/-- One if the run failed or a result is as grave as the threshold, else zero. -/
def exitCode (r : AuditReport) (threshold : Option Severity) : Nat :=
  if !r.isSuccess then 1
  else match threshold with
    | some s => if (r.findingsAtLeast s).isEmpty then 0 else 1
    | none => 0

end AuditReport
end CodeAudit
