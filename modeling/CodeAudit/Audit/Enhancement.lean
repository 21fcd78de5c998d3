import CodeAudit.Audit.Recovery
import CodeAudit.Finding.Basic
import CodeAudit.Tasks.Simulation

/-!
Texts of an assistant for the results of a run. Each text is a task of its own; what fails leaves the
result as it is, and nothing but the three texts of a result ever changes.
-/
namespace CodeAudit

inductive AssistKind where
  | explanation
  | suggestion
  | securityAdvice
deriving DecidableEq, Repr

def AssistKind.name : AssistKind → String
  | explanation => "explanation"
  | suggestion => "suggestion"
  | securityAdvice => "security_advice"

/-- What an assistant does when it is asked for a text for the given time. -/
abbrev Enhancer := AssistKind → NormalizedResult → (call : Nat) → Play String

/-- A text that is asked for; `place` is the place of the result. -/
structure AssistRequest where
  place : Nat
  kind : AssistKind
  result : NormalizedResult

structure EnhancementRun where
  results : List NormalizedResult
  recovery : Recovery
  requested : Nat
  enhanced : Nat
  failed : Nat

namespace Enhancement

def taskKind : String := "ai-enhancement"

/-- Advice on security is asked for results on security only. -/
def kindsFor (c : AssistantConfig) (r : NormalizedResult) : List AssistKind :=
  (if c.explanation then [.explanation] else []) ++ (if c.suggestion then [.suggestion] else []) ++
    (if c.securityAdvice && r.main == .security then [.securityAdvice] else [])

def requests (c : AssistantConfig) (results : List NormalizedResult) : List AssistRequest :=
  results.zipIdx.flatMap fun (r, place) => (kindsFor c r).map fun kind => ⟨place, kind, r⟩

/-- Blank texts are refused, all others trimmed. -/
def accept : Reply String → Reply String
  | .output text =>
    let text := Text.trim text
    if text.isEmpty then .error "AI response rejected: empty text" else .output text
  | reply => reply

/-- The calls for each request are counted apart. -/
def handler (e : Enhancer) : Handler AssistRequest String where
  key r := r.kind.name ++ ":" ++ toString r.place
  play r call :=
    let play := e r.kind r.result call
    { play with reply := accept play.reply }

def priorityOf (r : NormalizedResult) : Priority := if Severity.high ≤ r.severity then .high else .normal

def faultOn (r : NormalizedResult) (kind : FaultKind) (message : String) : Fault :=
  (((Fault.new kind message).atStage .enhancement).forFile r.file).forRule r.rule

/-- What became of requests: the task of each one that was taken, and a fault for each one that was refused. -/
structure Submission where
  accepted : List (AssistRequest × Nat) := []
  refused : List Fault := []

def submit : Simulation AssistRequest String → List AssistRequest → Submission × Simulation AssistRequest String
  | s, [] => ({}, s)
  | s, r :: rest =>
    match s.add taskKind r { priority := priorityOf r.result } with
    | .error e =>
      let (others, s) := submit s rest
      ({ others with refused := faultOn r.result .assistantCall e.message :: others.refused }, s)
    | .ok (id, s) =>
      let (others, s) := submit s rest
      ({ others with accepted := (r, id) :: others.accepted }, s)

def textOf (t : Task AssistRequest String) : Option String := if t.status = .completed then t.output else none

/-- Refused inputs and texts are told from calls that failed. -/
def faultKind (message : String) : FaultKind :=
  if Text.startsWith message "Invalid input" || Text.contains message "response rejected"
  then .assistantValidation else .assistantCall

def fault (r : NormalizedResult) (t : Task AssistRequest String) : Fault :=
  let message := t.error.getD "no output"
  (faultOn r (faultKind message) message).onAttempt t.attempts

/-- The texts that were written for the result at a place. -/
def assistanceAt (texts : List (AssistRequest × String)) (place : Nat) : Assistance :=
  let get (kind : AssistKind) := (texts.find? fun t => t.1.place = place ∧ t.1.kind = kind).map (·.2)
  ⟨get .explanation, get .suggestion, get .securityAdvice⟩

/-- Asks for all texts and writes those that came. -/
def run (c : AssistantConfig) (scheduler : SchedulerConfig) (e : Enhancer)
    (results : List NormalizedResult) (recovery : Recovery) : EnhancementRun :=
  let all := requests c results
  let idle : Simulation AssistRequest String :=
    { scheduler := { config := { scheduler with taskTimeoutMs := c.timeoutMs, maxRetries := c.maxRetries } } }
  let (submission, s) := submit (idle.register taskKind (handler e)) all
  let settled := if submission.accepted.isEmpty then s else s.start.wait.stop
  let ended := submission.accepted.filterMap fun (r, id) => (settled.scheduler.task? id).map fun t => (r, t)
  let texts := ended.filterMap fun (r, t) => (textOf t).map fun text => (r, text)
  let failures := ended.filter fun (_, t) => (textOf t).isNone
  { results := results.zipIdx.map fun (r, place) => r.assist (assistanceAt texts place)
    recovery := recovery.recordAll (submission.refused ++ failures.map fun (r, t) => fault r.result t)
    requested := all.length
    enhanced := (List.range results.length).countP fun place => texts.any fun t => t.1.place = place
    failed := submission.refused.length + failures.length }

end Enhancement
end CodeAudit
