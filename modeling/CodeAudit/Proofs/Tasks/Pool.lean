import CodeAudit.Tasks.Simulation

/-!
A scheduler with the work under way around it: tasks that are being executed and delays that have
not run out. Its actions are the calls of clients and what workers and timers do; a run is any list
of them. An action that is not possible in a state leaves it as it is.
-/
namespace CodeAudit

structure Pool (ι ω : Type) where
  scheduler : Scheduler ι ω
  /-- Tasks that were dispatched and whose execution is not announced yet. -/
  launched : List Nat := []
  /-- Tasks whose execution is announced and has not ended. -/
  executing : List Nat := []
  resting : List Backoff := []
  /-- The executions that ended, the latest last, and how. -/
  ended : List (Nat × Ending ω) := []

inductive Action (ι ω : Type) where
  | register (kind : String)
  | add (kind : String) (input : ι) (options : TaskOptions)
  | updatePriority (task : Nat) (p : Priority)
  | start
  | stop
  | dispatch
  | announce (task : Nat)
  | finish (task : Nat) (ending : Ending ω)
  | requeue (b : Backoff)

namespace Pool

variable {ι ω : Type}

def initial (config : SchedulerConfig) : Pool ι ω := { scheduler := { config := config } }

/-- The time limit of a task. -/
def timeoutMs (p : Pool ι ω) (id : Nat) : Nat := ((p.scheduler.task? id).map (·.timeoutMs)).getD 0

def step (p : Pool ι ω) : Action ι ω → Pool ι ω
  | .register kind => { p with scheduler := p.scheduler.register kind }
  | .add kind input options =>
    match p.scheduler.add kind input options with
    | .ok (_, s) => { p with scheduler := s }
    | .error _ => p
  | .updatePriority id priority => { p with scheduler := (p.scheduler.updatePriority id priority).2 }
  | .start => { p with scheduler := p.scheduler.start }
  | .stop => { p with scheduler := p.scheduler.stop }
  | .dispatch =>
    match p.scheduler.dispatch with
    | (none, s) => { p with scheduler := s }
    | (some id, s) => { p with scheduler := s, launched := p.launched ++ [id] }
  | .announce id =>
    if id ∈ p.launched then
      { p with
        scheduler := p.scheduler.announce id
        launched := p.launched.erase id
        executing := p.executing ++ [id] }
    else p
  | .finish id ending =>
    if id ∈ p.executing then
      let (backoff?, s) := p.scheduler.finish id (ending.outcome (p.timeoutMs id))
      { p with
        scheduler := s
        executing := p.executing.erase id
        resting := p.resting ++ backoff?.toList
        ended := p.ended ++ [(id, ending)] }
    else p
  | .requeue b =>
    if b ∈ p.resting then
      { p with scheduler := p.scheduler.requeue b, resting := p.resting.erase b }
    else p

def run (p : Pool ι ω) (actions : List (Action ι ω)) : Pool ι ω := actions.foldl step p

/-- What every action keeps, every run keeps. -/
theorem run_induction {P : Pool ι ω → Prop} (hstep : ∀ p a, P p → P (p.step a))
    {p : Pool ι ω} (h : P p) (actions : List (Action ι ω)) : P (p.run actions) := by
  induction actions generalizing p with
  | nil => exact h
  | cons a rest ih => exact ih (hstep p a h)

/-- How the executions of a task ended, in their order. -/
def endingsOf (p : Pool ι ω) (id : Nat) : List (Ending ω) :=
  (p.ended.filter fun e => e.1 = id).map (·.2)

end Pool
end CodeAudit
