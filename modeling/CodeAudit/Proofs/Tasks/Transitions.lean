import CodeAudit.Proofs.Tasks.Roster

/-! What the transitions of a scheduler leave behind, one lemma for each field that they change.
Dispatching is described for a queue of known tasks; it then takes the first entry at once. -/
namespace CodeAudit

namespace QueueEntry

theorem first?_eq_none_iff {q : List QueueEntry} : first? q = none ↔ q = [] := by
  cases q with
  | nil => simp [first?]
  | cons e rest =>
    simp only [first?, reduceCtorEq, iff_false]
    split <;> simp

theorem mem_of_first? {q : List QueueEntry} {e : QueueEntry} (h : first? q = some e) : e ∈ q := by
  induction q generalizing e with
  | nil => simp [first?] at h
  | cons d rest ih =>
    simp only [first?] at h
    cases hr : first? rest with
    | none => simp_all
    | some f =>
      simp only [hr, Option.some.injEq] at h
      split at h
      · exact List.mem_cons_of_mem _ (h ▸ ih hr)
      · exact h ▸ List.mem_cons_self

end QueueEntry

namespace Scheduler

variable {ι ω : Type} {s : Scheduler ι ω} {id : Nat} {t : Task ι ω}

/-- The record that the end of an execution leaves. -/
def settled (s : Scheduler ι ω) (t : Task ι ω) : Outcome ω → Task ι ω
  | .completed output => { t with status := .completed, output := some output, error := none }
  | .rejected error => { t with status := .failed, error := some error }
  | .failed error =>
    if t.canRetry then s.retried t error else { t with status := .failed, error := some error }

/-- The delay that follows the end of an execution, if there is one. -/
def pause? (s : Scheduler ι ω) (id : Nat) (t : Task ι ω) (o : Outcome ω) : Option Backoff :=
  if (s.settled t o).status = .retrying then
    some ⟨id, s.delayMs t.attempts, (s.settled t o).priority⟩
  else none

/-- What is told about the end of an execution. -/
def notice (s : Scheduler ι ω) (id : Nat) (t : Task ι ω) : Outcome ω → TaskEvent
  | .completed _ => .completed id
  | .rejected error => .failed id error
  | .failed error =>
    if t.canRetry then .retrying id t.attempts (s.delayMs t.attempts) error else .failed id error

/-- The end of an execution frees a slot, replaces one task and starts its delay. -/
theorem finish_eq (h : s.task? id = some t) (o : Outcome ω) :
    s.finish id o = (s.pause? id t o, { s with
      tasks := s.tasks.set id (s.settled t o)
      inFlight := s.inFlight - 1
      backingOff := s.backingOff + (s.pause? id t o).toList.length
      events := s.events ++ [s.notice id t o] }) := by
  have h' : s.tasks[id]? = some t := h
  cases o with
  | completed v => simp [finish, task?, h', setTask, emit, pause?, settled, notice]
  | rejected e => simp [finish, task?, h', finishFailed, setTask, emit, pause?, settled, notice]
  | failed e =>
    cases hr : t.canRetry <;>
      simp [finish, task?, h', finishFailed, hr, setTask, emit, pause?, settled, notice, retried, delayMs]

/-- The end of an execution leaves a task that is neither pending nor running. -/
theorem settled_status (s : Scheduler ι ω) (t : Task ι ω) (o : Outcome ω) :
    (s.settled t o).status = .retrying ∨ (s.settled t o).status.isFinal = true := by
  cases o with
  | completed v => exact .inr rfl
  | rejected e => exact .inr rfl
  | failed e =>
    cases hr : t.canRetry with
    | true => exact .inl (by simp [settled, hr, retried])
    | false => exact .inr (by simp [settled, hr, TaskStatus.isFinal])

@[simp]
theorem settled_kind (s : Scheduler ι ω) (t : Task ι ω) (o : Outcome ω) : (s.settled t o).kind = t.kind := by
  cases o with
  | completed v => rfl
  | rejected e => rfl
  | failed e => simp only [settled]; split <;> rfl

/-- A delay that runs out makes its task wait again, at the end of those with its priority. -/
theorem requeue_eq {b : Backoff} (h : s.task? b.task = some t) :
    s.requeue b = { s with
      tasks := s.tasks.set b.task { t with status := .pending }
      backingOff := s.backingOff - 1
      queue := (s.queue.filter fun e => e.task ≠ b.task) ++ [⟨b.task, b.priority, s.sequence + 1⟩]
      sequence := s.sequence + 1 } := by
  have h' : s.tasks[b.task]? = some t := h
  simp [requeue, task?, h', setTask, enqueue]

/-- An accepted task is a waiting one behind all others. -/
theorem add_ok_iff {kind : String} {input : ι} {options : TaskOptions} {r : Nat × Scheduler ι ω} :
    s.add kind input options = .ok r ↔ s.isStopped = false ∧ kind ∈ s.kinds ∧
      r = (s.tasks.length, { s with
        tasks := s.tasks ++ [s.newTask kind input options]
        queue := (s.queue.filter fun e => e.task ≠ s.tasks.length) ++
          [⟨s.tasks.length, options.priority, s.sequence + 1⟩]
        sequence := s.sequence + 1 }) := by
  unfold add
  cases hs : s.isStopped with
  | true => simp
  | false =>
    by_cases hk : kind ∈ s.kinds
    · simp [hk, enqueue, eq_comm]
    · simp [hk]

/-- A new priority is written if the task is waiting, and into the queue if it has a place there. -/
theorem updatePriority_cases (s : Scheduler ι ω) (id : Nat) (p : Priority) :
    (∃ e, s.updatePriority id p = (.error e, s) ∧ ∀ t, s.task? id = some t → t.status ≠ .pending) ∨
    ∃ t, s.task? id = some t ∧ t.status = .pending ∧
      ((id ∈ s.queue.map (·.task) ∧ s.updatePriority id p = (.ok (), { s with
          tasks := s.tasks.set id { t with priority := p }
          queue := s.queue.map fun e => if e.task = id then { e with priority := p } else e })) ∨
        id ∉ s.queue.map (·.task)) := by
  unfold updatePriority
  cases ht : s.task? id with
  | none => exact .inl ⟨_, rfl, by simp⟩
  | some t =>
    by_cases hp : t.status = .pending
    · refine .inr ⟨t, rfl, hp, ?_⟩
      by_cases hq : id ∈ s.queue.map (·.task)
      · have hany : (s.queue.any fun e => e.task = id) = true := by
          obtain ⟨e, he, rfl⟩ := List.mem_map.mp hq
          exact List.any_eq_true.mpr ⟨e, he, by simp⟩
        exact .inl ⟨hq, by simp [hp, setTask, hany]⟩
      · exact .inr hq
    · refine .inl ⟨.notPending id, by simp [hp], fun t' h => ?_⟩
      cases h
      exact hp

/-- With known tasks in the queue, the first of them is dispatched if a slot is free. -/
theorem dispatch_cases (hk : ∀ e ∈ s.queue, ∃ t, s.task? e.task = some t ∧ t.kind ∈ s.kinds) :
    s.dispatch = (none, s) ∨ ∃ e t, s.inFlight < s.concurrency ∧ QueueEntry.first? s.queue = some e ∧
      s.task? e.task = some t ∧
      s.dispatch = (some e.task, { s with queue := s.queue.erase e }.launch e.task t) := by
  unfold dispatch
  by_cases hfull : s.concurrency ≤ s.inFlight
  · exact .inl (by rw [if_pos hfull])
  · rw [if_neg hfull]
    cases hq : QueueEntry.first? s.queue with
    | none =>
      rw [QueueEntry.first?_eq_none_iff.mp hq]
      exact .inl rfl
    | some e =>
      have hmem := QueueEntry.mem_of_first? hq
      obtain ⟨t, ht, hkind⟩ := hk e hmem
      obtain ⟨n, hn⟩ : ∃ n, s.queue.length = n + 1 :=
        Nat.exists_eq_add_one.mpr (List.length_pos_of_mem hmem)
      have ht' : s.tasks[e.task]? = some t := ht
      refine .inr ⟨e, t, Nat.lt_of_not_le hfull, rfl, ht, ?_⟩
      simp [hn, serve, hq, task?, ht', hkind]

end Scheduler
end CodeAudit
