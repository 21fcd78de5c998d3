import CodeAudit.Config.Basic

/-!
Settings as JSON, and the document of default settings.
-/
namespace CodeAudit

/-- The members of a record in their order. -/
abbrev Members := List (String × Json)

namespace RuleToggles

def members (t : RuleToggles) : Members :=
  [("security", .bool t.security), ("style", .bool t.style), ("architecture", .bool t.architecture),
   ("test", .bool t.test), ("ast", .bool t.ast)]

end RuleToggles

namespace AssistantConfig

def members (a : AssistantConfig) : Members :=
  [("enable_ai", .bool a.enabled), ("ai_explanation", .bool a.explanation),
   ("ai_suggestion", .bool a.suggestion), ("ai_security_advice", .bool a.securityAdvice),
   ("timeout_ms", .nat a.timeoutMs), ("max_retries", .nat a.maxRetries)]

end AssistantConfig

namespace SchedulerConfig

def members (s : SchedulerConfig) : Members :=
  [("max_concurrency", .nat s.maxConcurrency), ("task_timeout_ms", .nat s.taskTimeoutMs),
   ("base_delay_ms", .nat s.baseDelayMs), ("max_retries", .nat s.maxRetries),
   ("boost_priority_on_retry", .bool s.boostPriorityOnRetry)]

end SchedulerConfig

namespace PipelineConfig

/-- The settings that are no records themselves. -/
def members (p : PipelineConfig) : Members :=
  [("max_file_size", .nat p.maxFileSize), ("exclude_patterns", .strings p.excludePatterns),
   ("enable_caching", .bool p.enableCaching), ("cache_capacity", .nat p.cacheCapacity),
   ("complexity_threshold", .nat p.complexityThreshold),
   ("max_file_length_lines", .nat p.maxFileLengthLines), ("max_call_depth", .nat p.maxCallDepth),
   ("max_nesting_depth", .nat p.maxNestingDepth), ("max_module_files", .nat p.maxModuleFiles),
   ("max_outgoing_dependencies", .nat p.maxOutgoingDependencies)]

end PipelineConfig

namespace LoggingConfig

def members (l : LoggingConfig) : Members := [("level", .str l.level), ("format", .str l.format)]

end LoggingConfig

namespace Config

def toJson (c : Config) : Json :=
  Json.object
    [("pipeline", Json.object (c.pipeline.members ++
      [("rules", Json.object c.pipeline.rules.members), ("ai", Json.object c.pipeline.assistant.members),
       ("scheduler", Json.object c.pipeline.scheduler.members)])),
     ("logging", Json.object c.logging.members)]

/-- A table of a document: its header and one line per member. -/
def tableText (header : String) (members : Members) : String :=
  s!"[{header}]\n" ++ String.join (members.map fun (k, v) => s!"{k} = {v.render}\n")

/-- Settings as a document. -/
def toToml (c : Config) : String :=
  String.intercalate "\n"
    [tableText "pipeline" c.pipeline.members, tableText "pipeline.rules" c.pipeline.rules.members,
     tableText "pipeline.ai" c.pipeline.assistant.members,
     tableText "pipeline.scheduler" c.pipeline.scheduler.members,
     tableText "logging" c.logging.members]

end Config
end CodeAudit
