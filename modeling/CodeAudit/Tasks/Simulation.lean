import CodeAudit.Count
import CodeAudit.Tasks.Scheduler
import CodeAudit.Text.Quoted

/-!
A scheduler on a virtual clock. Activities take turns, each as soon as the ones before it are done;
the clock stands still while there is one to serve and then jumps to the next timer. The client is
served before the activities that become ready with it.
-/
namespace CodeAudit

/-- What a handler does in one call: it sleeps first and then answers. -/
inductive Reply (ω : Type) where
  | output (value : ω)
  | error (message : String)
  | panic (message : String)

structure Play (ω : Type) where
  sleepMs : Nat := 0
  reply : Reply ω

/-- The work for one kind of task. Calls are counted from one for each key. -/
structure Handler (ι ω : Type) where
  tag : String := ""
  reject? : ι → Option String := fun _ => none
  key : ι → String
  play : ι → (call : Nat) → Play ω

/-- A call of a handler, which is known by its place among all handlers. -/
structure CallEntry where
  atMs : Nat
  handler : Nat
  tag : String
  key : String
  number : Nat
deriving DecidableEq, Repr

/-- One execution of a task. -/
structure Execution (ι ω : Type) where
  serial : Nat
  task : Nat
  place : Nat
  handler : Handler ι ω
  input : ι
  timeoutMs : Nat

/-- What is to be done at a turn. -/
inductive Activity (ι ω : Type) where
  | dispatch
  | begin (e : Execution ι ω)
  | call (e : Execution ι ω)
  | answer (e : Execution ι ω) (reply : Reply ω)
  | settle (e : Execution ι ω) (outcome : Outcome ω)
  | rest (b : Backoff)
  | requeue (b : Backoff)

namespace Activity

variable {ι ω : Type}

def serial? : Activity ι ω → Option Nat
  | begin e | call e | answer e _ | settle e _ => some e.serial
  | _ => none

/-- The turns and jumps of the clock that follow from an activity, at most; those of the attempts
that a task has left are not counted. -/
def turns : Activity ι ω → Nat
  | dispatch => 1
  | requeue _ => 2
  | rest _ => 4
  | settle _ _ => 6
  | answer _ _ => 7
  | call _ => 9
  | begin _ => 17

end Activity

structure Timer (ι ω : Type) where
  atMs : Nat
  activity : Activity ι ω

structure Simulation (ι ω : Type) where
  scheduler : Scheduler ι ω
  nowMs : Nat := 0
  /-- Activities to serve, the next one first. -/
  ready : List (Activity ι ω) := []
  /-- Timers in the order in which they were set. -/
  timers : List (Timer ι ω) := []
  handlers : List (String × Handler ι ω) := []
  /-- Dispatchers that wait to be woken. -/
  idle : Nat := 0
  /-- A wake-up that came while no dispatcher was waiting. -/
  isWoken : Bool := false
  executions : Nat := 0
  calls : List CallEntry := []

namespace Simulation

variable {ι ω : Type}

def push (s : Simulation ι ω) (a : Activity ι ω) : Simulation ι ω := { s with ready := s.ready ++ [a] }

/-- An activity after a delay; without a delay it is done in the same turn. -/
def setTimer (s : Simulation ι ω) (delayMs : Nat) (a : Activity ι ω) : Simulation ι ω :=
  { s with timers := s.timers ++ [⟨s.nowMs + delayMs, a⟩] }

/-- Wakes a dispatcher; if none is waiting the next one will not wait. -/
def wake (s : Simulation ι ω) : Simulation ι ω :=
  if 0 < s.idle then { s with idle := s.idle - 1 }.push .dispatch else { s with isWoken := true }

/-- Drops what is left of an execution. -/
def cancel (s : Simulation ι ω) (serial : Nat) : Simulation ι ω :=
  { s with
    ready := s.ready.filter fun a => a.serial? ≠ some serial
    timers := s.timers.filter fun t => t.activity.serial? ≠ some serial }

/-- The handler of a kind, the one registered last, with its place. -/
def handler? (s : Simulation ι ω) (kind : String) : Option (Nat × Handler ι ω) :=
  (s.handlers.zipIdx.reverse.find? fun h => h.1.1 = kind).map fun h => (h.2, h.1.2)

def register (s : Simulation ι ω) (kind : String) (h : Handler ι ω) : Simulation ι ω :=
  { s with handlers := s.handlers ++ [(kind, h)], scheduler := s.scheduler.register kind }

def add (s : Simulation ι ω) (kind : String) (input : ι) (options : TaskOptions) :
    Except QueueError (Nat × Simulation ι ω) :=
  (s.scheduler.add kind input options).map fun (id, scheduler) =>
    (id, { s with scheduler := scheduler }.wake)

def updatePriority (s : Simulation ι ω) (id : Nat) (p : Priority) :
    Except QueueError Unit × Simulation ι ω :=
  let (result, scheduler) := s.scheduler.updatePriority id p
  (result, { s with scheduler := scheduler })

/-- Starting a scheduler that does not run brings in a dispatcher. -/
def start (s : Simulation ι ω) : Simulation ι ω :=
  let started := { s with scheduler := s.scheduler.start }
  if s.scheduler.isRunning then started else started.push .dispatch

def stop (s : Simulation ι ω) : Simulation ι ω := { s with scheduler := s.scheduler.stop }.wake

/-- The execution of a task that has just been dispatched. -/
def execution? (s : Simulation ι ω) (task : Nat) : Option (Execution ι ω) :=
  (s.scheduler.task? task).bind fun t =>
    (s.handler? t.kind).map fun (place, h) =>
      { serial := s.executions, task := task, place := place, handler := h, input := t.input
        timeoutMs := t.timeoutMs }

/-- Dispatches tasks until no slot or no task is left. -/
def dispatchAll : Nat → Simulation ι ω → Simulation ι ω
  | 0, s => s
  | slots + 1, s =>
    match s.scheduler.dispatch with
    | (none, scheduler) => { s with scheduler := scheduler }
    | (some task, scheduler) =>
      let s := { s with scheduler := scheduler }
      match s.execution? task with
      | none => dispatchAll slots s
      | some e => dispatchAll slots ({ s with executions := s.executions + 1 }.push (.begin e))

/-- A dispatcher's turn: it ends with the scheduler, else it serves the queue and waits. -/
def dispatchTurn (s : Simulation ι ω) : Simulation ι ω :=
  if !s.scheduler.isRunning then s
  else
    let s := dispatchAll s.scheduler.queue.length s
    { s with isWoken := false, idle := s.idle + 1 }

/-- Puts a task back into the queue. -/
def requeueTurn (s : Simulation ι ω) (b : Backoff) : Simulation ι ω :=
  { s with scheduler := s.scheduler.requeue b }.wake

/-- Ends an execution and wakes a dispatcher. -/
def settleTurn (s : Simulation ι ω) (e : Execution ι ω) (outcome : Outcome ω) : Simulation ι ω :=
  let s := s.cancel e.serial
  let (backoff?, scheduler) := s.scheduler.finish e.task outcome
  let s := { s with scheduler := scheduler }
  let s := match backoff? with
    | some b => s.push (.rest b)
    | none => s
  s.wake

def timeoutError (ms : Nat) : String := s!"Task timed out after {ms} ms"

/-- The text for a panic. The number of the thread of work is not told. -/
def panicText (message : String) : String := "task N panicked with message " ++ Text.quoted message

end Simulation

/-- How an execution ends: the input is refused, the handler answers, or the time is up. -/
inductive Ending (ω : Type) where
  | refused (reason : String)
  | answered (reply : Reply ω)
  | timedOut

/-- The outcome that is told to the scheduler, for an execution with the given time limit. -/
def Ending.outcome {ω : Type} (timeoutMs : Nat) : Ending ω → Outcome ω
  | refused reason => .rejected ("Invalid input: " ++ reason)
  | answered (.output value) => .completed value
  | answered (.error message) => .failed message
  | answered (.panic message) => .failed ("Task panicked: " ++ Simulation.panicText message)
  | timedOut => .failed (Simulation.timeoutError timeoutMs)

namespace Simulation

/-- Announces an execution, looks at its input and sets the call under way. -/
def beginTurn (s : Simulation ι ω) (e : Execution ι ω) : Simulation ι ω :=
  let s := { s with scheduler := s.scheduler.announce e.task }
  match e.handler.reject? e.input with
  | some reason => s.settleTurn e ((Ending.refused reason).outcome e.timeoutMs)
  | none =>
    let late : Outcome ω := Ending.timedOut.outcome e.timeoutMs
    if e.timeoutMs = 0 then s.settleTurn e late
    else (s.push (.call e)).setTimer e.timeoutMs (.settle e late)

/-- The outcome is handed to the task in a turn of its own; the time limit no longer counts. -/
def answerTurn (s : Simulation ι ω) (e : Execution ι ω) (reply : Reply ω) : Simulation ι ω :=
  (s.cancel e.serial).push (.settle e ((Ending.answered reply).outcome e.timeoutMs))

/-- Calls the handler. -/
def callTurn (s : Simulation ι ω) (e : Execution ι ω) : Simulation ι ω :=
  let key := e.handler.key e.input
  let number := (s.calls.countP fun c => c.handler = e.place ∧ c.key = key) + 1
  let entry : CallEntry := ⟨s.nowMs, e.place, e.handler.tag, key, number⟩
  let s := { s with calls := s.calls ++ [entry] }
  let play := e.handler.play e.input number
  if play.sleepMs = 0 then s.answerTurn e play.reply
  else s.setTimer play.sleepMs (.answer e play.reply)

def restTurn (s : Simulation ι ω) (b : Backoff) : Simulation ι ω :=
  if b.delayMs = 0 then s.requeueTurn b else s.setTimer b.delayMs (.requeue b)

def turn (s : Simulation ι ω) : Activity ι ω → Simulation ι ω
  | .dispatch => s.dispatchTurn
  | .begin e => s.beginTurn e
  | .call e => s.callTurn e
  | .answer e reply => s.answerTurn e reply
  | .settle e outcome => s.settleTurn e outcome
  | .rest b => s.restTurn b
  | .requeue b => s.requeueTurn b

/-- The time of the next timer. -/
def nextMs? (s : Simulation ι ω) : Option Nat := (s.timers.map (·.atMs)).min?

/-- Moves the clock and makes ready what was set for that time. -/
def jump (s : Simulation ι ω) (ms : Nat) : Simulation ι ω :=
  { s with
    nowMs := ms
    ready := s.ready ++ (s.timers.filter fun t => t.atMs ≤ ms).map (·.activity)
    timers := s.timers.filter fun t => ms < t.atMs }

/-- A bound on the turns that are still to come: those of the activities that are ready or set, and
of all attempts that the tasks have left. -/
def turnsLeft (s : Simulation ι ω) : Nat :=
  total (s.ready.map (·.turns)) + total (s.timers.map (·.activity.turns + 1)) +
    total (s.scheduler.tasks.map fun t => 17 * (t.maxRetries + 1 - t.attempts)) + 1

/-- Serves activities and moves the clock until `done` holds with nothing ready, or the clock has
reached the limit. -/
def runUntil (done : Simulation ι ω → Bool) (limit : Option Nat) : Nat → Simulation ι ω → Simulation ι ω
  | 0, s => s
  | fuel + 1, s =>
    match s.ready with
    | a :: rest => runUntil done limit fuel ({ s with ready := rest }.turn a)
    | [] =>
      if done s then s
      else match s.nextMs?, limit with
        | none, none => s
        | none, some t => s.jump t
        | some t, none => runUntil done limit fuel (s.jump t)
        | some t, some l => if l ≤ t then s.jump l else runUntil done limit fuel (s.jump t)

/-- The client sleeps. A sleep of no length gives nobody a turn. -/
def sleep (s : Simulation ι ω) (ms : Nat) : Simulation ι ω :=
  if ms = 0 then s else runUntil (fun _ => false) (some (s.nowMs + ms)) s.turnsLeft s

/-- The client waits until the scheduler is settled. -/
def wait (s : Simulation ι ω) : Simulation ι ω :=
  if s.scheduler.isSettled then s else runUntil (·.scheduler.isSettled) none s.turnsLeft s

end Simulation
end CodeAudit
