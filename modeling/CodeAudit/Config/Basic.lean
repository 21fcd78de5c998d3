import CodeAudit.Glob
import CodeAudit.Json
import CodeAudit.Rules.Sets

/-!
The settings of the analysis, their defaults, and when they are valid.
-/
namespace CodeAudit

structure AssistantConfig where
  enabled : Bool := false
  explanation : Bool := true
  suggestion : Bool := true
  securityAdvice : Bool := true
  timeoutMs : Nat := 10000
  maxRetries : Nat := 2
deriving DecidableEq, Repr, Inhabited

structure SchedulerConfig where
  maxConcurrency : Nat := 4
  taskTimeoutMs : Nat := 30000
  baseDelayMs : Nat := 1000
  maxRetries : Nat := 3
  boostPriorityOnRetry : Bool := true
deriving DecidableEq, Repr, Inhabited

structure PipelineConfig where
  maxFileSize : Nat := 1048576
  excludePatterns : List String := []
  enableCaching : Bool := true
  cacheCapacity : Nat := 500
  complexityThreshold : Nat := 15
  maxFileLengthLines : Nat := 300
  maxCallDepth : Nat := 5
  maxNestingDepth : Nat := 5
  maxModuleFiles : Nat := 20
  maxOutgoingDependencies : Nat := 15
  rules : RuleToggles := {}
  assistant : AssistantConfig := {}
  scheduler : SchedulerConfig := {}
deriving DecidableEq, Repr, Inhabited

structure LoggingConfig where
  level : String := "info"
  format : String := "pretty"
deriving DecidableEq, Repr, Inhabited

structure Config where
  pipeline : PipelineConfig := {}
  logging : LoggingConfig := {}
deriving DecidableEq, Repr, Inhabited

inductive ConfigError where
  | notFound (path : String)
  | unreadable
  | malformed
  | invalid (reason : String)
deriving DecidableEq, Repr, Inhabited

def ConfigError.message : ConfigError → String
  | notFound path => s!"Config file not found: {path}"
  | unreadable => "Failed to read config"
  | malformed => "Failed to parse config"
  | invalid reason => s!"Invalid configuration: {reason}"

/-- Globs that are matched together: a path matches if one of them does. -/
structure Exclusions where
  globs : List Glob

def Exclusions.isMatch (s : Exclusions) (path : String) : Bool := s.globs.any fun g => g.isMatchInSet path

/-- Reads patterns in order; the first that cannot be read is the error. -/
def Exclusions.ofPatterns : List String → Except (String × GlobError) Exclusions
  | [] => .ok ⟨[]⟩
  | p :: rest =>
    match Glob.parse p with
    | .error e => .error (p, e)
    | .ok g => (ofPatterns rest).map fun s => ⟨g :: s.globs⟩

namespace PipelineConfig

/-- The matcher of the paths to leave out. -/
def excludeSet (p : PipelineConfig) : Except ConfigError Exclusions :=
  match Exclusions.ofPatterns p.excludePatterns with
  | .ok s => .ok s
  | .error (pattern, e) => .error (.invalid s!"Invalid exclude pattern {pattern}: {e.message pattern}")

/-- The settings that must not be zero, in the order in which they are checked. -/
def positiveSettings (p : PipelineConfig) : List (String × Nat) :=
  [("complexity_threshold", p.complexityThreshold), ("max_file_length_lines", p.maxFileLengthLines),
   ("max_call_depth", p.maxCallDepth), ("max_nesting_depth", p.maxNestingDepth),
   ("max_module_files", p.maxModuleFiles), ("max_outgoing_dependencies", p.maxOutgoingDependencies),
   ("cache_capacity", p.cacheCapacity), ("max_file_size", p.maxFileSize)]

end PipelineConfig

namespace Config

def logLevels : List String := ["trace", "debug", "info", "warn", "error"]

def logFormats : List String := ["pretty", "compact", "json"]

/-- A level with an equals sign or a comma is a list of directives and is not checked. -/
def levelIsValid (level : String) : Bool :=
  Text.containsChar level '=' || Text.containsChar level ',' || logLevels.contains level

/-- The first thing that is wrong, if anything is. -/
def problem? (c : Config) : Option ConfigError :=
  match c.pipeline.positiveSettings.find? fun s => s.2 == 0 with
  | some (name, _) => some (.invalid s!"{name} must be greater than 0")
  | none =>
    if c.pipeline.scheduler.maxConcurrency == 0 then
      some (.invalid "scheduler.max_concurrency must be at least 1")
    else if !levelIsValid c.logging.level then
      some (.invalid
        s!"Invalid log level: {c.logging.level}. Must be one of: trace, debug, info, warn, error")
    else if !logFormats.contains c.logging.format then
      some (.invalid s!"Invalid log format: {c.logging.format}. Must be one of: pretty, compact, json")
    else match c.pipeline.excludeSet with
      | .error e => some e
      | .ok _ => none

def validate (c : Config) : Except ConfigError Config :=
  match c.problem? with
  | some e => .error e
  | none => .ok c

end Config
end CodeAudit
