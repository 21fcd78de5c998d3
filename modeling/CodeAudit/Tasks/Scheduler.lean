import CodeAudit.Tasks.Basic

/-!
The state of a task scheduler and its transitions. Waiting tasks are served by priority and, among
equals, in the order in which they entered the queue; at most so many run at a time as the settings
allow. Which transition comes next is left to whoever drives the scheduler.
-/
namespace CodeAudit

/-- A waiting task. Smaller sequence numbers entered earlier. -/
structure QueueEntry where
  task : Nat
  priority : Priority
  sequence : Nat
deriving DecidableEq, Repr

namespace QueueEntry

/-- Whether an entry is served before another one. -/
def precedes (a b : QueueEntry) : Bool :=
  b.priority.rank < a.priority.rank || (a.priority.rank == b.priority.rank && a.sequence < b.sequence)

/-- The entry that is served first. -/
def first? : List QueueEntry → Option QueueEntry
  | [] => none
  | e :: rest =>
    match first? rest with
    | none => some e
    | some f => some (if f.precedes e then f else e)

end QueueEntry

/-- Outcome of one execution. -/
inductive Outcome (ω : Type) where
  | completed (output : ω)
  | failed (error : String)
  /-- The input is not acceptable, so that another attempt is of no use. -/
  | rejected (error : String)

/-- A delay after a failed attempt, and the priority with which its task enters the queue again. -/
structure Backoff where
  task : Nat
  delayMs : Nat
  priority : Priority
deriving DecidableEq, Repr

structure Scheduler (ι ω : Type) where
  config : SchedulerConfig
  /-- The kinds of tasks that can be handled. -/
  kinds : List String := []
  /-- All tasks; a task is known by its place. -/
  tasks : List (Task ι ω) := []
  queue : List QueueEntry := []
  inFlight : Nat := 0
  /-- Tasks that wait out a delay before they enter the queue again. -/
  backingOff : Nat := 0
  sequence : Nat := 0
  isRunning : Bool := false
  isStopped : Bool := false
  events : List TaskEvent := []

/-- How many tasks are in each status. -/
structure SchedulerStatistics where
  total : Nat
  pending : Nat
  running : Nat
  retrying : Nat
  completed : Nat
  failed : Nat

namespace Scheduler

variable {ι ω : Type}

/-- At least one task may run. -/
def concurrency (s : Scheduler ι ω) : Nat := max 1 s.config.maxConcurrency

def task? (s : Scheduler ι ω) (id : Nat) : Option (Task ι ω) := s.tasks[id]?

def statistics (s : Scheduler ι ω) : SchedulerStatistics :=
  let count (status : TaskStatus) := s.tasks.countP fun t => t.status = status
  ⟨s.tasks.length, count .pending, count .running, count .retrying, count .completed, count .failed⟩

/-- Nothing runs or waits out a delay, and nothing is queued that would be served. -/
def isSettled (s : Scheduler ι ω) : Bool :=
  s.inFlight == 0 && s.backingOff == 0 && (s.queue.isEmpty || !s.isRunning)

def emit (s : Scheduler ι ω) (e : TaskEvent) : Scheduler ι ω := { s with events := s.events ++ [e] }

def setTask (s : Scheduler ι ω) (id : Nat) (t : Task ι ω) : Scheduler ι ω :=
  { s with tasks := s.tasks.set id t }

/-- Puts a task at the end of those with its priority. It gives up the place that it had. -/
def enqueue (s : Scheduler ι ω) (id : Nat) (p : Priority) : Scheduler ι ω :=
  { s with
    queue := (s.queue.filter fun e => e.task ≠ id) ++ [⟨id, p, s.sequence + 1⟩]
    sequence := s.sequence + 1 }

def register (s : Scheduler ι ω) (kind : String) : Scheduler ι ω :=
  if kind ∈ s.kinds then s else { s with kinds := s.kinds ++ [kind] }

/-- A task as it is submitted; what the options leave open comes from the settings. -/
def newTask (s : Scheduler ι ω) (kind : String) (input : ι) (options : TaskOptions) : Task ι ω where
  kind := kind
  input := input
  priority := options.priority
  maxRetries := options.maxRetries.getD s.config.maxRetries
  timeoutMs := options.timeoutMs.getD s.config.taskTimeoutMs

/-- Submits a task and gives its place. -/
def add (s : Scheduler ι ω) (kind : String) (input : ι) (options : TaskOptions) :
    Except QueueError (Nat × Scheduler ι ω) :=
  if s.isStopped then .error .stopped
  else if kind ∉ s.kinds then .error (.unknownKind kind)
  else
    let id := s.tasks.length
    .ok (id, { s with tasks := s.tasks ++ [s.newTask kind input options] }.enqueue id options.priority)

/-- Changes the priority of a waiting task, which keeps its sequence number. The task is changed
before its place in the queue is looked up. -/
def updatePriority (s : Scheduler ι ω) (id : Nat) (p : Priority) :
    Except QueueError Unit × Scheduler ι ω :=
  match s.task? id with
  | none => (.error (.notFound id), s)
  | some t =>
    if t.status ≠ .pending then (.error (.notPending id), s)
    else
      let s := s.setTask id { t with priority := p }
      if s.queue.any fun e => e.task = id then
        (.ok (), { s with
          queue := s.queue.map fun e => if e.task = id then { e with priority := p } else e })
      else (.error (.notPending id), s)

def start (s : Scheduler ι ω) : Scheduler ι ω := { s with isRunning := true, isStopped := false }

/-- Running tasks go on; waiting ones stay where they are. -/
def stop (s : Scheduler ι ω) : Scheduler ι ω := { s with isRunning := false, isStopped := true }

/-- Marks a task running that has been taken out of the queue. -/
def launch (s : Scheduler ι ω) (id : Nat) (t : Task ι ω) : Scheduler ι ω :=
  { s.setTask id { t with status := .running, attempts := t.attempts + 1 } with inFlight := s.inFlight + 1 }

/-- Takes tasks out of the queue until one of them can run, which is marked running. A task of a
kind that nobody handles fails on the way. -/
def serve : Nat → Scheduler ι ω → Option Nat × Scheduler ι ω
  | 0, s => (none, s)
  | waiting + 1, s =>
    match QueueEntry.first? s.queue with
    | none => (none, s)
    | some e =>
      let s := { s with queue := s.queue.erase e }
      match s.task? e.task with
      | none => serve waiting s
      | some t =>
        if t.kind ∈ s.kinds then (some e.task, s.launch e.task t)
        else
          serve waiting (s.setTask e.task
            { t with status := .failed, error := some (QueueError.unknownKind t.kind).message })

/-- Serves the queue if a slot is free. Gives the task that is to be run, if there is one. -/
def dispatch (s : Scheduler ι ω) : Option Nat × Scheduler ι ω :=
  if s.concurrency ≤ s.inFlight then (none, s) else serve s.queue.length s

/-- Tells that the execution of a dispatched task begins. -/
def announce (s : Scheduler ι ω) (id : Nat) : Scheduler ι ω :=
  match s.task? id with
  | none => s
  | some t => s.emit (.started id t.kind t.attempts)

def delayMs (s : Scheduler ι ω) (attempt : Nat) : Nat := backoffMs s.config.baseDelayMs attempt

/-- The task after a failed attempt that is followed by another one. -/
def retried (s : Scheduler ι ω) (t : Task ι ω) (error : String) : Task ι ω :=
  { t with
    status := .retrying
    error := some error
    priority := if s.config.boostPriorityOnRetry then t.priority.boosted else t.priority }

/-- Ends a failed execution. Gives the delay before the next attempt, if there is one. -/
def finishFailed (s : Scheduler ι ω) (id : Nat) (t : Task ι ω) (error : String) (retryable : Bool) :
    Option Backoff × Scheduler ι ω :=
  if retryable && t.canRetry then
    let delay := s.delayMs t.attempts
    let t' := s.retried t error
    (some ⟨id, delay, t'.priority⟩, { (s.setTask id t').emit (.retrying id t.attempts delay error) with
      backingOff := s.backingOff + 1 })
  else
    (none, (s.setTask id { t with status := .failed, error := some error }).emit (.failed id error))

/-- Ends an execution. Gives the delay before the next attempt, if there is one. -/
def finish (s : Scheduler ι ω) (id : Nat) (outcome : Outcome ω) : Option Backoff × Scheduler ι ω :=
  let s := { s with inFlight := s.inFlight - 1 }
  match s.task? id with
  | none => (none, s)
  | some t =>
    match outcome with
    | .completed output =>
      (none, (s.setTask id { t with status := .completed, output := some output, error := none }).emit
        (.completed id))
    | .rejected error => s.finishFailed id t error false
    | .failed error => s.finishFailed id t error true

/-- Ends a delay: its task enters the queue anew, with the priority that it had when the delay began. -/
def requeue (s : Scheduler ι ω) (b : Backoff) : Scheduler ι ω :=
  let s := { s with backingOff := s.backingOff - 1 }
  let s := match s.task? b.task with
    | none => s
    | some t => s.setTask b.task { t with status := .pending }
  s.enqueue b.task b.priority

end Scheduler
end CodeAudit
