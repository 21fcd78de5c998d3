/-!
The stages of an audit in their order, and the records of their progress.
-/
namespace CodeAudit

inductive Stage where
  | languageDetection
  | astParsing
  | graphConstruction
  | staticAnalysis
  | ruleExecution
  | categorization
  | normalization
  | enhancement
deriving DecidableEq, Repr, Inhabited

namespace Stage

def all : List Stage :=
  [languageDetection, astParsing, graphConstruction, staticAnalysis, ruleExecution, categorization,
   normalization, enhancement]

def name : Stage → String
  | languageDetection => "language_detection"
  | astParsing => "ast_parsing"
  | graphConstruction => "ir_construction"
  | staticAnalysis => "static_analysis"
  | ruleExecution => "rule_execution"
  | categorization => "categorization"
  | normalization => "normalization"
  | enhancement => "ai_enhancement"

def ofName? (s : String) : Option Stage := all.find? fun x => x.name == s

/-- The place among all stages, counted from one. -/
def number (s : Stage) : Nat := all.idxOf s + 1

end Stage

inductive StageStatus where
  | running
  | completed
  | failed
  | skipped
deriving DecidableEq, Repr, Inhabited

namespace StageStatus

def all : List StageStatus := [running, completed, failed, skipped]

def name : StageStatus → String
  | running => "running"
  | completed => "completed"
  | failed => "failed"
  | skipped => "skipped"

def ofName? (s : String) : Option StageStatus := all.find? fun x => x.name == s

def isFinished : StageStatus → Bool
  | running => false
  | _ => true

end StageStatus

/-- One event in the life of a stage. -/
structure StageProgress where
  execution : String
  stage : Stage
  status : StageStatus
  /-- From 0 to 100. -/
  percent : Nat
  message : Option String := none
  error : Option String := none
  durationMs : Option Nat := none
deriving DecidableEq, Repr

namespace StageProgress

def running (execution : String) (stage : Stage) : StageProgress := ⟨execution, stage, .running, 0, none, none, none⟩

def completed (execution : String) (stage : Stage) (durationMs : Nat) : StageProgress :=
  ⟨execution, stage, .completed, 100, none, none, some durationMs⟩

def failed (execution : String) (stage : Stage) (error : String) (durationMs : Nat) : StageProgress :=
  ⟨execution, stage, .failed, 100, none, some error, some durationMs⟩

def skipped (execution : String) (stage : Stage) (reason : String) : StageProgress :=
  ⟨execution, stage, .skipped, 100, some reason, none, none⟩

def withMessage (p : StageProgress) (message : String) : StageProgress := { p with message := some message }

end StageProgress
end CodeAudit
