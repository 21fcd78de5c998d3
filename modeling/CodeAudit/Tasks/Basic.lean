import CodeAudit.Config.Basic
import CodeAudit.Count

/-!
Units of scheduled work: their priorities, their life cycle, and the delay before a failed one is
tried again.
-/
namespace CodeAudit

inductive Priority where
  | low
  | normal
  | high
  | critical
deriving DecidableEq, Repr, Inhabited

namespace Priority

def all : List Priority := [low, normal, high, critical]

def name : Priority → String
  | low => "low"
  | normal => "normal"
  | high => "high"
  | critical => "critical"

def ofName? (s : String) : Option Priority := all.find? fun p => p.name == s

def rank : Priority → Nat
  | low => 0
  | normal => 1
  | high => 2
  | critical => 3

instance : LE Priority := ⟨fun a b => a.rank ≤ b.rank⟩

instance : DecidableLE Priority := fun a b => inferInstanceAs (Decidable (a.rank ≤ b.rank))

/-- One step up; the highest stays. -/
def boosted : Priority → Priority
  | low => normal
  | normal => high
  | high | critical => critical

def sorted (ps : List Priority) : List Priority := ps.mergeSort fun a b => decide (a ≤ b)

end Priority

inductive TaskStatus where
  | pending
  | running
  | retrying
  | completed
  | failed
deriving DecidableEq, Repr, Inhabited

namespace TaskStatus

def name : TaskStatus → String
  | pending => "pending"
  | running => "running"
  | retrying => "retrying"
  | completed => "completed"
  | failed => "failed"

def isFinal : TaskStatus → Bool
  | completed | failed => true
  | _ => false

end TaskStatus

/-- A task with an input of type `ι` that gives an output of type `ω`. The moments at which it came in, started and
ended and the time it took are not kept, since no decision depends on them. -/
structure Task (ι ω : Type) where
  kind : String
  input : ι
  priority : Priority
  maxRetries : Nat
  timeoutMs : Nat
  status : TaskStatus := .pending
  /-- Executions started so far. -/
  attempts : Nat := 0
  output : Option ω := none
  error : Option String := none

namespace Task

variable {ι ω : Type}

def canRetry (t : Task ι ω) : Bool := t.attempts ≤ t.maxRetries

def hasStarted (t : Task ι ω) : Bool := 0 < t.attempts

end Task

/-- What a submission may set; the rest comes from the scheduler. -/
structure TaskOptions where
  priority : Priority := .normal
  maxRetries : Option Nat := none
  timeoutMs : Option Nat := none

/-- The longest wait between two attempts, in milliseconds. -/
def maxBackoffMs : Nat := 60000

/-- Largest number of whole seconds that a delay may have before it is cut. -/
def maxDelaySeconds : Nat := bound64

/-- The delay after a failed attempt: it doubles with each attempt up to the longest wait. The
doubling stops after 31 steps, and a product too large to be a delay counts as the longest wait. -/
def backoffMs (baseMs attempt : Nat) : Nat :=
  let product := baseMs <<< min (attempt - 1) 31
  if product / 1000 < maxDelaySeconds then min product maxBackoffMs else maxBackoffMs

inductive QueueError where
  | unknownKind (kind : String)
  | notFound (task : Nat)
  | notPending (task : Nat)
  | stopped
deriving DecidableEq, Repr

def QueueError.message : QueueError → String
  | unknownKind kind => s!"No handler registered for task type: {kind}"
  | notFound task => s!"Task not found: {task}"
  | notPending task => s!"Task {task} is no longer pending"
  | stopped => "Scheduler is stopped"

/-- What happens to a task, as it is told to subscribers. How long a completed task took is not told. -/
inductive TaskEvent where
  | started (task : Nat) (kind : String) (attempt : Nat)
  | completed (task : Nat)
  | retrying (task attempt delayMs : Nat) (error : String)
  | failed (task : Nat) (error : String)
deriving DecidableEq, Repr

def TaskEvent.task : TaskEvent → Nat
  | started t _ _ | completed t | retrying t _ _ _ | failed t _ => t

end CodeAudit
