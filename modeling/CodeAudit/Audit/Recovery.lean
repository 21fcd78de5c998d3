import CodeAudit.Audit.Fault
import CodeAudit.Tasks.Basic

/-!
The log of faults of a run, the decision what to do about a fault, and repeated attempts with growing
delays between them.
-/
namespace CodeAudit

structure Recovery where
  baseDelayMs : Nat := 1000
  maxRetries : Nat := 3
  log : List Fault := []

/-- How a series of attempts ended. -/
structure RetryRun (α : Type) where
  outcome : Except Fault α
  recovery : Recovery
  /-- Time spent on delays. -/
  elapsedMs : Nat
  /-- The numbers of the attempts that were made, in order. -/
  attempts : List Nat

namespace Recovery

def record (r : Recovery) (f : Fault) : Recovery := { r with log := r.log ++ [f] }

def recordAll (r : Recovery) (fs : List Fault) : Recovery := { r with log := r.log ++ fs }

/-- What to do about a fault after so many attempts. -/
def reaction (r : Recovery) (f : Fault) (attempt : Nat) : RecoveryAction :=
  if f.isRetryable then
    if attempt ≤ r.maxRetries then .retry else f.kind.exhaustedAction
  else f.kind.action

theorem le_maxRetries_of_reaction_eq_retry {r : Recovery} {f : Fault} {attempt : Nat}
    (h : r.reaction f attempt = .retry) : attempt ≤ r.maxRetries := by
  unfold reaction at h
  split at h
  · split at h
    · assumption
    · exact absurd h (FaultKind.exhaustedAction_ne_retry f.kind)
  · rename_i hr
    exact absurd h (by simpa [f.isRetryable_eq, FaultKind.isRetryable] using hr)

/-- Attempts from a given number on. Every failed one is recorded with its number. -/
def retryFrom {α : Type} (op : Nat → Except Fault α) (r : Recovery) (attempt elapsedMs : Nat) : RetryRun α :=
  match op attempt with
  | .ok value => ⟨.ok value, r, elapsedMs, [attempt]⟩
  | .error f =>
    let f := f.onAttempt attempt
    if _h : r.reaction f attempt = .retry then
      let rest := retryFrom op (r.record f) (attempt + 1) (elapsedMs + backoffMs r.baseDelayMs attempt)
      { rest with attempts := attempt :: rest.attempts }
    else ⟨.error f, r.record f, elapsedMs, [attempt]⟩
termination_by r.maxRetries + 1 - attempt
decreasing_by
  have := le_maxRetries_of_reaction_eq_retry _h
  simp only [record]
  omega

/-- Attempts until one succeeds or another one is of no use. -/
def retry {α : Type} (r : Recovery) (op : Nat → Except Fault α) : RetryRun α := retryFrom op r 1 0

def countOf (r : Recovery) (k : FaultKind) : Nat := r.log.countP fun f => f.kind = k

/-- The stages with a fault that makes their output void, in the order of stages. -/
def failedStages (r : Recovery) : List Stage :=
  Stage.all.filter fun s => r.log.any fun f => f.failsStage && f.stage == some s

def hasFatal (r : Recovery) : Bool := r.log.any fun f => f.severity == .fatal

end Recovery
end CodeAudit
