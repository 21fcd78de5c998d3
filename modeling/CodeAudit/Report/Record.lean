import CodeAudit.Audit.Summary
import CodeAudit.Report.Analyses

/-!
The whole outcome of an audit as JSON, for other programs to read.
-/
namespace CodeAudit

def LanguageStatistics.toJson (s : LanguageStatistics) : Json :=
  let share (l : LanguageShare) := Json.object
    [("language", .str l.language.name), ("file_count", .nat l.files), ("line_count", .nat l.lines),
     ("percentage", .float l.percentage)]
  Json.object
    [("languages", .ofList share s.languages), ("total_files", .nat s.totalFiles),
     ("total_lines", .nat s.totalLines), ("unknown_files", .nat s.unknownFiles),
     ("primary_language", .ofOption (fun l => .str l.name) s.primary),
     ("is_multi_language", .bool s.multiLanguage)]

def GraphStatistics.toJson (s : GraphStatistics) : Json :=
  Json.object
    [("node_count", .nat s.nodeCount), ("edge_count", .nat s.edgeCount),
     ("nodes_by_type", s.nodesByKind.countsJson), ("edges_by_type", s.edgesByKind.countsJson),
     ("cycle_count", .nat s.cycleCount), ("entry_point_count", .nat s.entryPointCount)]

def RunSummary.toJson (s : RunSummary) : Json :=
  let share (l : LanguageShare) := Json.object
    [("language", .str l.language.name), ("files", .nat l.files), ("percentage", .float l.percentage)]
  let c := s.counters
  Json.object
    [("total_findings", .nat s.totalFindings),
     ("by_severity", Json.object (s.bySeverity.map fun (v, n) => (v.name, .nat n))),
     ("by_category", s.byCategory.countsJson), ("top_languages", .ofList share s.topLanguages),
     ("files_analyzed", .nat c.filesAnalyzed), ("files_skipped", .nat c.filesSkipped),
     ("parse_errors", .nat c.parseErrors), ("cache_hits", .nat c.cacheHits),
     ("cache_misses", .nat c.cacheMisses)]

def Fault.contextJson (f : Fault) : Json :=
  Json.object
    [("file", .ofOption .str f.file), ("rule", .ofOption .str f.rule), ("attempt", .ofOption .nat f.attempt)]

def Fault.toJson (f : Fault) : Json :=
  Json.object
    [("error_type", .str f.kind.name), ("severity", .str f.severity.name),
     ("stage", .ofOption (fun s => .str s.name) f.stage), ("message", .str f.message),
     ("retryable", .bool f.isRetryable), ("context", f.contextJson)]

def StageProgress.toJson (p : StageProgress) : Json :=
  Json.object
    [("execution_id", .str p.execution), ("stage", .str p.stage.name), ("status", .str p.status.name),
     ("progress", .nat p.percent), ("message", .ofOption .str p.message), ("error", .ofOption .str p.error),
     ("duration_ms", .ofOption .nat p.durationMs)]

def NormalizedResult.toJson (r : NormalizedResult) : Json :=
  Json.object
    [("id", .str r.id), ("project_id", .str r.project), ("execution_id", .str r.execution),
     ("file_path", .str r.file), ("line_start", .nat r.lineStart), ("line_end", .nat r.lineEnd),
     ("language", .str r.language.name), ("main_category", .str r.main.name),
     ("sub_category", .str r.sub.name), ("rule_id", .str r.rule), ("severity", .str r.severity.name),
     ("message", .str r.message), ("suggestion", .ofOption .str r.suggestion), ("raw", r.raw),
     ("ai_explanation", .ofOption .str r.assistance.explanation),
     ("ai_suggestion", .ofOption .str r.assistance.suggestion),
     ("ai_security_advice", .ofOption .str r.assistance.securityAdvice),
     ("deterministic", .bool r.deterministic)]

def AuditReport.toJson (r : AuditReport) : Json :=
  Json.object
    [("success", .bool r.isSuccess), ("project_id", .str r.project), ("execution_id", .str r.execution),
     ("results", .ofList (·.toJson) r.results), ("progress", .ofList (·.toJson) r.progress),
     ("summary", r.summary.toJson), ("errors", .ofList (·.toJson) r.faults),
     ("language_stats", .ofOption (·.toJson) r.languages), ("graph_stats", .ofOption (·.toJson) r.graph),
     ("error", .ofOption .str r.error)]

end CodeAudit
