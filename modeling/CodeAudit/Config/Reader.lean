import CodeAudit.Config.Basic
import CodeAudit.Json.Fields
import CodeAudit.Toml

/-!
Settings from documents and from the environment. A missing setting has its default, an unknown one
is ignored, and a value of the wrong type makes the whole document malformed.
-/
namespace CodeAudit

/-- The members of a record: an object by name, or a list by position. -/
def Json.member? (j : Json) (names : List String) (name : String) : Option Json :=
  match j with
  | .obj fields => fields.lookup name
  | .arr items => items[names.idxOf name]?
  | _ => none

/-- Whether a value has the shape of a record with these members. -/
def Json.isRecord (j : Json) (names : List String) : Bool :=
  match j with
  | .obj _ => true
  | .arr items => items.length ≤ names.length
  | _ => false

namespace Config

/-- A setting under its name: its default if there is none, none if it has the wrong type. -/
def setting {α : Type} (j : Json) (names : List String) (name : String) (default : α)
    (read : Json → Option α) : Option α :=
  match j.member? names name with
  | none => some default
  | some v => read v

def readToggles (j : Json) : Option RuleToggles :=
  let names := ["security", "style", "architecture", "test", "ast"]
  if j.isRecord names then do
    return { security := ← setting j names "security" true Json.asBool
             style := ← setting j names "style" true Json.asBool
             architecture := ← setting j names "architecture" true Json.asBool
             test := ← setting j names "test" true Json.asBool
             ast := ← setting j names "ast" true Json.asBool }
  else none

def readAssistant (j : Json) : Option AssistantConfig :=
  let names := ["enable_ai", "ai_explanation", "ai_suggestion", "ai_security_advice", "timeout_ms", "max_retries"]
  let d : AssistantConfig := {}
  if j.isRecord names then do
    return { enabled := ← setting j names "enable_ai" d.enabled Json.asBool
             explanation := ← setting j names "ai_explanation" d.explanation Json.asBool
             suggestion := ← setting j names "ai_suggestion" d.suggestion Json.asBool
             securityAdvice := ← setting j names "ai_security_advice" d.securityAdvice Json.asBool
             timeoutMs := ← setting j names "timeout_ms" d.timeoutMs Json.asNat64
             maxRetries := ← setting j names "max_retries" d.maxRetries Json.asNat32 }
  else none

def readScheduler (j : Json) : Option SchedulerConfig :=
  let names := ["max_concurrency", "task_timeout_ms", "base_delay_ms", "max_retries", "boost_priority_on_retry"]
  let d : SchedulerConfig := {}
  if j.isRecord names then do
    return { maxConcurrency := ← setting j names "max_concurrency" d.maxConcurrency Json.asNat64
             taskTimeoutMs := ← setting j names "task_timeout_ms" d.taskTimeoutMs Json.asNat64
             baseDelayMs := ← setting j names "base_delay_ms" d.baseDelayMs Json.asNat64
             maxRetries := ← setting j names "max_retries" d.maxRetries Json.asNat32
             boostPriorityOnRetry := ← setting j names "boost_priority_on_retry" d.boostPriorityOnRetry Json.asBool }
  else none

def readPipeline (j : Json) : Option PipelineConfig :=
  let names := ["max_file_size", "exclude_patterns", "enable_caching", "cache_capacity",
    "complexity_threshold", "max_file_length_lines", "max_call_depth", "max_nesting_depth",
    "max_module_files", "max_outgoing_dependencies", "rules", "ai", "scheduler"]
  let d : PipelineConfig := {}
  if j.isRecord names then do
    return { maxFileSize := ← setting j names "max_file_size" d.maxFileSize Json.asNat64
             excludePatterns := ← setting j names "exclude_patterns" d.excludePatterns Json.asStrs
             enableCaching := ← setting j names "enable_caching" d.enableCaching Json.asBool
             cacheCapacity := ← setting j names "cache_capacity" d.cacheCapacity Json.asNat64
             complexityThreshold := ← setting j names "complexity_threshold" d.complexityThreshold Json.asNat32
             maxFileLengthLines := ← setting j names "max_file_length_lines" d.maxFileLengthLines Json.asNat64
             maxCallDepth := ← setting j names "max_call_depth" d.maxCallDepth Json.asNat64
             maxNestingDepth := ← setting j names "max_nesting_depth" d.maxNestingDepth Json.asNat64
             maxModuleFiles := ← setting j names "max_module_files" d.maxModuleFiles Json.asNat64
             maxOutgoingDependencies :=
               ← setting j names "max_outgoing_dependencies" d.maxOutgoingDependencies Json.asNat64
             rules := ← setting j names "rules" d.rules readToggles
             assistant := ← setting j names "ai" d.assistant readAssistant
             scheduler := ← setting j names "scheduler" d.scheduler readScheduler }
  else none

def readLogging (j : Json) : Option LoggingConfig :=
  let names := ["level", "format"]
  let d : LoggingConfig := {}
  if j.isRecord names then do
    return { level := ← setting j names "level" d.level Json.asStr
             format := ← setting j names "format" d.format Json.asStr }
  else none

/-- The settings of a document. -/
def ofJson? (j : Json) : Option Config :=
  let names := ["pipeline", "logging"]
  if j.isRecord names then do
    return { pipeline := ← setting j names "pipeline" {} readPipeline
             logging := ← setting j names "logging" {} readLogging }
  else none

def ofToml? (text : String) : Option Config := (Toml.parse? text).bind ofJson?

/-- Values of environment variables. -/
abbrev Environment := List (String × String)

/-- The variables that override settings. -/
def overridingNames : List String :=
  ["CODESCAN_MAX_FILE_SIZE", "CODESCAN_EXCLUDE", "CODESCAN_ENABLE_CACHE", "CODESCAN_CACHE_CAPACITY",
   "CODESCAN_COMPLEXITY_THRESHOLD", "CODESCAN_MAX_FILE_LINES", "CODESCAN_ENABLE_AI",
   "CODESCAN_MAX_CONCURRENCY", "RUST_LOG", "CODESCAN_LOG_FORMAT"]

/-- A natural number below `bound`, with an optional plus sign. -/
def parseNat? (bound : Nat) (s : String) : Option Nat :=
  let cs := match s.toList with
    | '+' :: rest => rest
    | cs => cs
  match Text.decimal? cs with
  | some n => if n < bound then some n else none
  | none => none

def parseFlag (s : String) : Bool := ["true", "1", "yes", "on"].contains (Text.lowerCase s)

/-- The patterns of a list with commas, without blanks around them and without empty ones. -/
def parsePatterns (s : String) : List String :=
  ((Text.splitOn s ',').map Text.trim).filter fun p => !p.isEmpty

/-- Overrides settings by variables; a number that cannot be read changes nothing. -/
def override (c : Config) (env : Environment) : Config :=
  let p := c.pipeline
  let number (name : String) (bound old : Nat) : Nat := ((env.lookup name).bind (parseNat? bound)).getD old
  let flag (name : String) (old : Bool) : Bool := ((env.lookup name).map parseFlag).getD old
  { pipeline :=
      { p with
        maxFileSize := number "CODESCAN_MAX_FILE_SIZE" bound64 p.maxFileSize
        excludePatterns :=
          p.excludePatterns ++ ((env.lookup "CODESCAN_EXCLUDE").map parsePatterns).getD []
        enableCaching := flag "CODESCAN_ENABLE_CACHE" p.enableCaching
        cacheCapacity := number "CODESCAN_CACHE_CAPACITY" bound64 p.cacheCapacity
        complexityThreshold := number "CODESCAN_COMPLEXITY_THRESHOLD" bound32 p.complexityThreshold
        maxFileLengthLines := number "CODESCAN_MAX_FILE_LINES" bound64 p.maxFileLengthLines
        assistant := { p.assistant with enabled := flag "CODESCAN_ENABLE_AI" p.assistant.enabled }
        scheduler :=
          { p.scheduler with
            maxConcurrency := number "CODESCAN_MAX_CONCURRENCY" bound64 p.scheduler.maxConcurrency } }
    logging :=
      { level := (env.lookup "RUST_LOG").getD c.logging.level
        format := (env.lookup "CODESCAN_LOG_FORMAT").getD c.logging.format } }

/-- What is found under the name of a file of settings. -/
inductive FileState where
  | missing
  | unreadable
  | text (content : String)
deriving DecidableEq, Repr

/-- The settings of a file, overridden by the environment, if they are valid. -/
def ofFile (path : String) (env : Environment) : FileState → Except ConfigError Config
  | .missing => .error (.notFound path)
  | .unreadable => .error .unreadable
  | .text content =>
    match ofToml? content with
    | none => .error .malformed
    | some c => (c.override env).validate

/-- Where settings come from. -/
inductive Origin where
  | localFile
  | homeFile
  | defaults
deriving DecidableEq, Repr

def Origin.name : Origin → String
  | localFile => "local"
  | homeFile => "home"
  | defaults => "default"

/-- The file of the directory goes before the one of the user, and that before the defaults. -/
def load (localText homeText : Option String) (env : Environment) : Except ConfigError (Origin × Config) :=
  match localText, homeText with
  | some t, _ => (ofFile ".codescan.toml" env (.text t)).map (Origin.localFile, ·)
  | none, some t => (ofFile "config.toml" env (.text t)).map (Origin.homeFile, ·)
  | none, none => (override {} env).validate.map (Origin.defaults, ·)

end Config
end CodeAudit
