import CodeAudit.Analysis.Calling
import CodeAudit.Analysis.Complexity
import CodeAudit.Analysis.Coupling
import CodeAudit.Analysis.Layering
import CodeAudit.Audit.Enhancement
import CodeAudit.Audit.Store
import CodeAudit.Audit.Summary
import CodeAudit.Finding.Categorize
import CodeAudit.Grammar.Parser
import CodeAudit.Graph.Build
import CodeAudit.Outline.File
import CodeAudit.Rules.Engine

/-!
A whole audit: eight stages in a row. Each stage is published when it begins and when it ends, and its
output counts once its end has been published. A stage that fails ends the run; what the completed
stages found is still returned.
-/
namespace CodeAudit

/-- What may keep an analysis from giving its findings at an attempt. -/
inductive Interference where
  | timedOut
  | crashed (cause : String)

structure Auditor where
  config : PipelineConfig
  exclude : Exclusions
  engine : RuleEngine
  ruleSets : List TextRuleSet
  parser : Syntax.SyntaxParser := Grammar.parser
  enhancer : Option Enhancer := none
  /-- What happens to an analysis, by its name and the number of the attempt. -/
  interference : String → Nat → Option Interference := fun _ _ => none
  /-- What the workers that parse, build the graph or run the rules on trees say as they break
  down, if they do. -/
  breakdown : Stage → Option String := fun _ => none

/-- What lasts from run to run. -/
structure AuditState where
  cache : AstCache AstFile
  sink : Option Sink := none
  runs : Nat := 0
  /-- What has been sent to the listener, if there is one. -/
  channel : Option (List StageProgress) := none

/-- A new listener takes the place of the one before. -/
def AuditState.listen (st : AuditState) : AuditState := { st with channel := some [] }

/-- What the stages of a run have produced. -/
structure RunData where
  files : List SourceFile
  mappings : List LanguageMapping := []
  languages : Option LanguageStatistics := none
  trees : List AstFile := []
  parseErrors : Nat := 0
  graph : Option GraphStatistics := none
  findings : List Finding := []
  violations : List Violation := []
  categorized : List CategorizedResult := []
  results : List NormalizedResult := []

structure RunState where
  project : String
  execution : String
  data : RunData
  cache : AstCache AstFile
  sink : Option Sink
  recovery : Recovery
  records : List StageProgress := []
  channel : Option (List StageProgress) := none

/-- What the work of a stage leaves: the state, and the data to keep if the stage completes. -/
structure StageEffect where
  state : RunState
  outcome : Except Fault RunData

namespace RunState

def context (s : RunState) : RunContext := ⟨s.project, s.execution, s.data.mappings⟩

def record (s : RunState) (fs : List Fault) : RunState := { s with recovery := s.recovery.recordAll fs }

/-- Sends a progress record to the listener, lists it and hands it to the sink. A refusal is a fault. -/
def publish (s : RunState) (p : StageProgress) : Option Fault × RunState :=
  let s := { s with channel := s.channel.map (· ++ [p]), records := s.records ++ [p] }
  match s.sink with
  | none => (none, s)
  | some sink =>
    match sink.upsertProgress p with
    | .ok sink => (none, { s with sink := some sink })
    | .error why =>
      let f := (Fault.new .storage ("Failed to store progress: " ++ why)).atStage p.stage
      (some f, s.record [f])

/-- Hands results to the sink. -/
def persist (s : RunState) (rs : List NormalizedResult) : Option Fault × RunState :=
  match s.sink with
  | none => (none, s)
  | some sink =>
    match sink.write rs with
    | .ok sink => (none, { s with sink := some sink })
    | .error why => (some (Fault.new .storage s!"Failed to write {rs.length} results: {why}"), s)

/-- Runs the work of a stage between its first and its last progress record. -/
def runStage (s : RunState) (stage : Stage) (work : RunState → StageEffect) : Option Fault × RunState :=
  match s.publish (.running s.execution stage) with
  | (some f, s) => (some f, s)
  | (none, s) =>
    let effect := work s
    match effect.outcome with
    | .ok data =>
      match effect.state.publish (.completed s.execution stage 0) with
      | (some f, s) => (some f, s)
      | (none, s) => (none, { s with data := data })
    | .error f =>
      let f := (f.atStage stage).stageAborted
      let s := effect.state.record [f]
      (some f, (s.publish (.failed s.execution stage f.message 0)).2)

/-- The violations and findings of the stages that did not fail. -/
def usable (s : RunState) : List Violation × List Finding :=
  let failed := s.recovery.failedStages
  (if failed.contains .ruleExecution then [] else s.data.violations,
   if failed.contains .staticAnalysis then [] else s.data.findings)

/-- The results that can be had from the stages that completed. -/
def salvage (s : RunState) : List NormalizedResult :=
  s.context.normalizeAll (categorizeAll s.usable.1 s.usable.2)

end RunState

namespace Auditor

def ofConfig (c : PipelineConfig) : Except ConfigError Auditor :=
  c.excludeSet.map fun exclude =>
    { config := c, exclude := exclude, ruleSets := TextRuleSet.enabled c.rules
      engine := if c.rules.ast then ⟨AstRule.builtin⟩ else {} }

def initialState (a : Auditor) (sink : Option Sink) : AuditState :=
  { cache := .empty a.config.cacheCapacity, sink := sink }

/-- Files that are neither too large nor excluded. -/
def keeps (a : Auditor) (f : SourceFile) : Bool :=
  f.size ≤ a.config.maxFileSize && !a.exclude.isMatch f.path && !Exclusion.excludes f.path

def detect (s : RunState) : StageEffect :=
  let mappings := s.data.files.map LanguageMapping.ofFile
  ⟨s, .ok { s.data with
    mappings := mappings
    languages := some (.ofMappings mappings s.data.files) }⟩

/-- Reads files one after the other, through the cache if it is in use. -/
def parseAll (parser : Syntax.SyntaxParser) (caching : Bool) (c : AstCache AstFile) :
    List (SourceFile × Language) → List AstFile × AstCache AstFile
  | [] => ([], c)
  | (f, l) :: rest =>
    let (tree, c) := if caching then c.parse parser f l else (AstFile.ofFile parser f l, c)
    let (trees, c) := parseAll parser caching c rest
    (tree :: trees, c)

/-- A breakdown of the workers of a stage, as they tell it. -/
def breakdownFault? (a : Auditor) (stage : Stage) (kind : FaultKind) (what : String) : Option Fault :=
  (a.breakdown stage).map fun text => Fault.new kind (what ++ ": " ++ Simulation.panicText text)

/-- The files that a grammar can read, with their languages. -/
def parseInputs (d : RunData) : List (SourceFile × Language) :=
  (d.files.zip (d.mappings.map (·.language))).filter fun i => i.2.fidelity?.isSome

def parse (a : Auditor) (s : RunState) : StageEffect :=
  match a.breakdownFault? .astParsing .astParse "Parser workers failed" with
  | some f => ⟨s, .error f⟩
  | none =>
    let (trees, cache) := parseAll a.parser a.config.enableCaching s.cache (parseInputs s.data)
    let broken := trees.filter (·.hasError)
    let faults := broken.map fun t =>
      ((Fault.new .astParse (t.parseError.getD "")).atStage .astParsing).forFile t.path
    ⟨{ s with cache := cache }.record faults, .ok { s.data with trees := trees, parseErrors := broken.length }⟩

def buildGraph (a : Auditor) (s : RunState) : StageEffect :=
  match a.breakdownFault? .graphConstruction .unknown "IR construction failed" with
  | some f => ⟨s, .error f⟩
  | none =>
    let graph := CodeGraph.ofFiles (s.data.trees.filter fun t => !t.hasError)
    ⟨s, .ok { s.data with graph := some graph.statistics }⟩

/-- The analyses by name, in the order of their findings. -/
def analyses (a : Auditor) (p : Project) : List (String × List Finding) :=
  [("complexity", (Complexity.analyze a.config.complexityThreshold a.config.maxFileLengthLines p).findings),
   ("structure", (Layering.analyze a.config.maxNestingDepth a.config.maxModuleFiles p).findings),
   ("dependency", (Coupling.analyze a.config.maxOutgoingDependencies p).findings),
   ("call-graph", (Calling.analyze a.config.maxCallDepth p).findings)]

/-- One attempt at an analysis. -/
def attempt (a : Auditor) (name : String) (findings : List Finding) (n : Nat) : Except Fault (List Finding) :=
  match a.interference name n with
  | none => .ok findings
  | some .timedOut =>
    let ms := a.config.scheduler.taskTimeoutMs
    .error ((Fault.new .timeout s!"{name} analyzer timed out after {ms} ms").atStage .staticAnalysis)
  | some (.crashed cause) =>
    let message := name ++ " analyzer crashed: " ++ cause
    .error ((Fault.new (.classify message) message).atStage .staticAnalysis)

/-- Runs analyses in order; one that does not succeed gives no findings. -/
def runAnalyses (a : Auditor) (r : Recovery) : List (String × List Finding) → List Finding × Recovery
  | [] => ([], r)
  | (name, findings) :: rest =>
    let run := r.retry (a.attempt name findings)
    let (others, r) := runAnalyses a run.recovery rest
    ((match run.outcome with
      | .ok found => found
      | .error _ => []) ++ others, r)

/-- By file, then by line, then by kind. -/
def findingLe (a b : Finding) : Bool :=
  if a.location.file != b.location.file then Text.leBool a.location.file b.location.file
  else if a.location.startLine != b.location.startLine then a.location.startLine < b.location.startLine
  else a.kind.rank ≤ b.kind.rank

def analyze (a : Auditor) (s : RunState) : StageEffect :=
  let (findings, recovery) := a.runAnalyses s.recovery (a.analyses ⟨s.data.files, s.data.trees⟩)
  ⟨{ s with recovery := recovery }, .ok { s.data with findings := findings.mergeSort findingLe }⟩

def ruleFault (e : RuleError) : Fault :=
  let f := (Fault.new .ruleExecution e.message).atStage .ruleExecution
  match e.rule? with
  | some rule => f.forRule rule
  | none => f

/-- What the rules on trees and on text make of the data, or the breakdown of one of the two. -/
def ruleRuns (a : Auditor) (d : RunData) : Except Fault (RuleRun × TextRuleSet.Run) :=
  let units := (d.files.zip d.mappings).map fun (f, m) => TextUnit.ofFile f m.language
  match a.breakdownFault? .ruleExecution .ruleExecution "Rule execution crashed" with
  | some f => .error f
  | none =>
    match TextRuleSet.runAll a.ruleSets units with
    | .error text => .error (Fault.new .ruleExecution ("Rule execution crashed: " ++ Simulation.panicText text))
    | .ok onText => .ok (a.engine.execute d.trees, onText)

/-- Runs the rules on trees and on text. A breakdown fails the stage. -/
def runRules (a : Auditor) (s : RunState) : StageEffect :=
  match a.ruleRuns s.data with
  | .error f => ⟨s, .error f⟩
  | .ok (onTrees, onText) =>
    ⟨s.record ((onTrees.errors ++ onText.errors).map ruleFault),
     .ok { s.data with violations := Violation.sortByFile (onTrees.violations ++ onText.violations) }⟩

def categorize (s : RunState) : StageEffect :=
  ⟨s, .ok { s.data with categorized := categorizeAll s.usable.1 s.usable.2 }⟩

/-- The results are there as soon as they are made, also if they cannot be stored. -/
def normalize (s : RunState) : StageEffect :=
  let results := s.context.normalizeAll s.data.categorized
  let s := { s with data := { s.data with results := results } }
  match s.persist results with
  | (none, s) => ⟨s, .ok s.data⟩
  | (some f, s) => ⟨s, .error f⟩

/-- Adds the texts of an assistant and stores the results that have some. -/
def enhance (a : Auditor) (e : Enhancer) (s : RunState) : StageEffect :=
  let run := Enhancement.run a.config.assistant a.config.scheduler e s.data.results s.recovery
  let s := { s with data := { s.data with results := run.results }, recovery := run.recovery }
  if run.enhanced = 0 then ⟨s, .ok s.data⟩
  else match s.persist (run.results.filter (·.isAssisted)) with
    | (none, s) => ⟨s, .ok s.data⟩
    | (some f, s) => ⟨s, .error f⟩

/-- Why a stage is left out, if it is. -/
def skipReason? (a : Auditor) : Stage → Option String
  | .enhancement =>
    if !a.config.assistant.enabled then some "AI enhancement disabled"
    else if a.enhancer.isNone then some "no AI enhancer configured"
    else none
  | _ => none

/-- The work of each stage. -/
def work (a : Auditor) : Stage → RunState → StageEffect
  | .languageDetection => detect
  | .astParsing => a.parse
  | .graphConstruction => a.buildGraph
  | .staticAnalysis => a.analyze
  | .ruleExecution => a.runRules
  | .categorization => categorize
  | .normalization => normalize
  | .enhancement => fun s =>
    match a.enhancer with
    | some e => a.enhance e s
    | none => ⟨s, .ok s.data⟩

def perform (a : Auditor) (stage : Stage) (s : RunState) : Option Fault × RunState :=
  match a.skipReason? stage with
  | some reason => s.publish (.skipped s.execution stage reason)
  | none => s.runStage stage (a.work stage)

/-- Performs stages in order until one fails. -/
def performAll (a : Auditor) : List Stage → RunState → Option Fault × RunState
  | [], s => (none, s)
  | stage :: rest, s =>
    match a.perform stage s with
    | (some f, s) => (some f, s)
    | (none, s) => performAll a rest s

def begin (a : Auditor) (st : AuditState) (project : String) (files : List SourceFile) : RunState where
  project := project
  execution := s!"run-{st.runs}"
  data := { files := files.filter a.keeps }
  cache := st.cache
  sink := st.sink
  recovery := { baseDelayMs := a.config.scheduler.baseDelayMs, maxRetries := a.config.scheduler.maxRetries }
  channel := st.channel

/-- The results of a run that ended: of one that failed before it had any, what can be salvaged. -/
def finalResults (fault : Option Fault) (s : RunState) : List NormalizedResult :=
  if fault.isSome && s.data.results.isEmpty then s.salvage else s.data.results

/-- Audits files. -/
def run (a : Auditor) (st : AuditState) (project : String) (files : List SourceFile) :
    AuditReport × AuditState :=
  let first := a.begin st project files
  let (fault, s) := a.performAll Stage.all first
  let results := finalResults fault s
  let counters : RunCounters :=
    { filesAnalyzed := s.data.files.length
      filesSkipped := files.length - s.data.files.length
      parseErrors := s.data.parseErrors
      cacheHits := s.cache.hits - st.cache.hits
      cacheMisses := s.cache.misses - st.cache.misses }
  ({ project := project
     execution := s.execution
     results := results
     progress := s.records
     summary := .build results s.data.languages counters
     faults := s.recovery.log
     languages := s.data.languages
     graph := s.data.graph
     error := fault.map (·.text) },
   { cache := s.cache, sink := s.sink, runs := st.runs + 1, channel := s.channel })

/-- Audits what a collector found. Without files no stage is run. -/
def runCollected (a : Auditor) (st : AuditState) (project : String) :
    Except String (List SourceFile) → AuditReport × AuditState
  | .ok files => a.run st project files
  | .error why =>
    let f := Fault.new .sourceCollection ("Failed to collect source files: " ++ why)
    ({ project := project, execution := s!"run-{st.runs}", faults := [f], error := some f.text },
     { st with runs := st.runs + 1 })

end Auditor
end CodeAudit
