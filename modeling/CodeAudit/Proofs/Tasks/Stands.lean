import CodeAudit.Proofs.Tasks.Events

/-! Where a pool has each of its tasks, and what the actions of dispatchers, workers and timers change:
the task that they concern stands elsewhere, and every other task stays where it is. -/
namespace CodeAudit

/-- What a task is told at its submission, its input included. -/
structure Task.Kept {ι ω : Type} (t t' : Task ι ω) : Prop extends Task.Kin t t' where
  input : t'.input = t.input

theorem Task.Kept.trans {ι ω : Type} {t t' t'' : Task ι ω} (h : t.Kept t') (h' : t'.Kept t'') : t.Kept t'' where
  kind := h'.kind.trans h.kind
  maxRetries := h'.maxRetries.trans h.maxRetries
  timeoutMs := h'.timeoutMs.trans h.timeoutMs
  input := h'.input.trans h.input

def Outcome.error? {ω : Type} : Outcome ω → Option String
  | completed _ => none
  | failed error | rejected error => some error

/-- The error in the record of a task is that of the execution that ended last. -/
def Task.Reports {ι ω : Type} (t : Task ι ω) (es : List (Ending ω)) : Prop :=
  t.error = es.getLast?.bind fun e => (e.outcome t.timeoutMs).error?

namespace Pool

variable {ι ω : Type} {p : Pool ι ω} {id k : Nat} {t : Task ι ω}

theorem Moves.reports {s : Scheduler ι ω} {es es' : List (Ending ω)} {x x' : Option (Task ι ω)}
    (hm : Moves s es x x' es') (hfits : Fits es x) (h : ∀ t ∈ x, t.Reports es) : ∀ t ∈ x', t.Reports es' := by
  cases hm with
  | stay => exact h
  | submit kind input options =>
    obtain rfl : es = [] := hfits
    rintro t ⟨⟩
    rfl
  | rank q _ | launch _ | wake _ =>
    have hold := h _ rfl
    rintro t ⟨⟩
    exact hold
  | @settle u e _ =>
    rintro t ⟨⟩
    have hlimit := (s.kin_settled u (e.outcome u.timeoutMs)).timeoutMs
    rw [Task.Reports, List.getLast?_concat, Option.bind_some, hlimit]
    cases e.outcome u.timeoutMs with
    | completed v | rejected error => rfl
    | failed error =>
      rw [Scheduler.settled]
      split <;> rfl

/-- In every state of every run, the record of a task tells the error of its last execution. -/
theorem reports_run (config : SchedulerConfig) (actions : List (Action ι ω)) (id : Nat) :
    ∀ t ∈ ((initial config).run actions).scheduler.task? id,
      t.Reports (((initial config).run actions).endingsOf id) := by
  have h := run_induction
    (P := fun p => p.Balanced ∧ (∀ id, Fits (p.endingsOf id) (p.scheduler.task? id)) ∧
      ∀ id, ∀ t ∈ p.scheduler.task? id, t.Reports (p.endingsOf id))
    (fun p a hp => ⟨balanced_step p a hp.1, fun id => (step_moves hp.1 a id).fits (hp.2.1 id),
      fun id => (step_moves hp.1 a id).reports (hp.2.1 id) (hp.2.2 id)⟩)
    (p := initial config) ⟨.initial config, fun _ => rfl, by simp [initial, Scheduler.task?]⟩ actions
  exact h.2.2 id

/-- What the pool has of a task. -/
inductive Stand where
  | idle
  | launched
  | executing
  | resting (b : Backoff)

def Stands (p : Pool ι ω) (id : Nat) : Stand → Prop
  | .idle => p.scheduler.status? id ≠ some .running ∧ p.scheduler.status? id ≠ some .retrying
  | .launched => id ∈ p.launched
  | .executing => id ∈ p.executing
  | .resting b => b ∈ p.resting ∧ b.task = id

/-- An action that does not concern a task leaves it where it stands. -/
structure Agrees (p p' : Pool ι ω) (id : Nat) : Prop where
  stands : ∀ stand, p.Stands id stand → p'.Stands id stand
  endings : p'.endingsOf id = p.endingsOf id

/-- An action that concerns one of the tasks that are there, and no other. -/
structure Touches (p p' : Pool ι ω) (k : Nat) : Prop where
  length : p'.scheduler.tasks.length = p.scheduler.tasks.length
  isRunning : p'.scheduler.isRunning = p.scheduler.isRunning
  agrees : ∀ id, id ≠ k → p.Agrees p' id

/-- A pool that some actions lead to. -/
def Reached (config : SchedulerConfig) (p : Pool ι ω) : Prop := ∃ actions, p = (initial config).run actions

namespace Reached

variable {config : SchedulerConfig}

theorem step (h : p.Reached config) (a : Action ι ω) : (p.step a).Reached config := by
  obtain ⟨actions, rfl⟩ := h
  exact ⟨actions ++ [a], by rw [run, run, List.foldl_append, List.foldl_cons, List.foldl_nil]⟩

theorem balanced (h : p.Reached config) : p.Balanced := by
  obtain ⟨actions, rfl⟩ := h
  exact balanced_run config actions

theorem fits (h : p.Reached config) (id : Nat) : Fits (p.endingsOf id) (p.scheduler.task? id) := by
  obtain ⟨actions, rfl⟩ := h
  exact fits_run config actions id

theorem accounts (h : p.Reached config) (ht : p.scheduler.task? id = some t) : t.Accounts (p.endingsOf id) := by
  have hfits := h.fits id
  rwa [ht] at hfits

theorem reports (h : p.Reached config) (ht : p.scheduler.task? id = some t) : t.Reports (p.endingsOf id) := by
  obtain ⟨actions, rfl⟩ := h
  exact reports_run config actions id t ht

end Reached

theorem Moves.kept {s : Scheduler ι ω} {es es' : List (Ending ω)} {x : Option (Task ι ω)}
    (h : Moves s es (some t) x es') : ∃ t', x = some t' ∧ t.Kept t' := by
  obtain ⟨t', rfl, hkin⟩ := h.kin
  refine ⟨t', rfl, hkin, ?_⟩
  cases h with
  | stay | rank | launch | wake => rfl
  | settle e =>
    cases e.outcome t.timeoutMs with
    | completed v | rejected error => rfl
    | failed error => simp only [Scheduler.settled]; split <;> rfl

/-- A waiting task is not under way. -/
theorem Stands.eq_idle {stand : Stand} (h : p.Stands id stand) (hb : p.Balanced)
    (hpending : p.scheduler.status? id = some .pending) : stand = .idle := by
  cases stand with
  | idle => rfl
  | launched =>
    have hrunning := (hb.running.mem_iff id).mp (List.mem_append_left _ h)
    rw [hpending] at hrunning
    cases hrunning
  | executing =>
    have hrunning := (hb.running.mem_iff id).mp (List.mem_append_right _ h)
    rw [hpending] at hrunning
    cases hrunning
  | resting b =>
    have hretrying := (hb.retrying.mem_iff id).mp (List.mem_map.mpr ⟨b, h.1, h.2⟩)
    rw [hpending] at hretrying
    cases hretrying

section Steps

variable {p' : Pool ι ω} {t' : Task ι ω}

/-- An action that replaces one task and lists the others where they stood before. -/
theorem touches_of_set (ht : p.scheduler.task? k = some t) (htasks : p'.scheduler.tasks = p.scheduler.tasks.set k t')
    (hrunning : p'.scheduler.isRunning = p.scheduler.isRunning)
    (hlaunched : ∀ id ∈ p.launched, id ≠ k → id ∈ p'.launched)
    (hexecuting : ∀ id ∈ p.executing, id ≠ k → id ∈ p'.executing)
    (hresting : ∀ b ∈ p.resting, b.task ≠ k → b ∈ p'.resting)
    (hendings : ∀ id, id ≠ k → p'.endingsOf id = p.endingsOf id) : p.Touches p' k := by
  refine ⟨by rw [htasks, List.length_set], hrunning, fun id hid => ⟨fun stand h => ?_, hendings id hid⟩⟩
  cases stand with
  | idle =>
    rwa [Stands, Scheduler.status?, Scheduler.task?_of_set htasks (Scheduler.lt_length_of_task? ht), if_neg hid]
  | launched => exact hlaunched id h hid
  | executing => exact hexecuting id h hid
  | resting b => exact ⟨hresting b h.1 (h.2 ▸ hid), h.2⟩

/-- A dispatcher finds nothing to do or launches a waiting task. -/
theorem step_dispatch_cases (hb : p.Balanced) :
    (p.scheduler.dispatch = (none, p.scheduler) ∧
      (p.scheduler.queue = [] ∨ p.scheduler.concurrency ≤ p.scheduler.inFlight)) ∨
    ∃ e t, e ∈ p.scheduler.queue ∧ p.scheduler.task? e.task = some t ∧ t.status = .pending ∧
      p.scheduler.dispatch = (some e.task, (p.step .dispatch).scheduler) ∧
      (p.step .dispatch).scheduler = { p.scheduler with queue := p.scheduler.queue.erase e }.launch e.task t ∧
      (p.step .dispatch).Stands e.task .launched ∧
      (p.step .dispatch).endingsOf e.task = p.endingsOf e.task ∧ p.Touches (p.step .dispatch) e.task := by
  by_cases hfull : p.scheduler.concurrency ≤ p.scheduler.inFlight
  · exact .inl ⟨by rw [Scheduler.dispatch, if_pos hfull], .inr hfull⟩
  obtain hnone | ⟨e, t, -, hfirst, ht, hdispatch⟩ := Scheduler.dispatch_cases hb.queue_known
  · refine .inl ⟨hnone, .inl ?_⟩
    cases hfirst : QueueEntry.first? p.scheduler.queue with
    | none => exact QueueEntry.first?_eq_none_iff.mp hfirst
    | some e =>
      have hmem := QueueEntry.mem_of_first? hfirst
      obtain ⟨t, ht, hkind⟩ := hb.queue_known e hmem
      obtain ⟨n, hn⟩ := Nat.exists_eq_add_one.mpr (List.length_pos_of_mem hmem)
      have ht' : p.scheduler.tasks[e.task]? = some t := ht
      simp [Scheduler.dispatch, hfull, hn, Scheduler.serve, hfirst, Scheduler.task?, ht', hkind] at hnone
  have hmem := QueueEntry.mem_of_first? hfirst
  have hpending := (hb.pending.mem_iff e.task).mp (List.mem_map_of_mem hmem)
  rw [Scheduler.status?_of_task? ht, Option.some.injEq] at hpending
  have hstep : p.step .dispatch = { p with
      scheduler := { p.scheduler with queue := p.scheduler.queue.erase e }.launch e.task t
      launched := p.launched ++ [e.task] } := by
    simp only [step, hdispatch]
  refine .inr ⟨e, t, hmem, ht, hpending, ?_, ?_, ?_, ?_, ?_⟩
  · rw [hdispatch, hstep]
  · rw [hstep]
  · rw [hstep]
    exact List.mem_append_right _ (List.mem_singleton_self _)
  · rw [hstep]
    rfl
  · rw [hstep]
    exact touches_of_set ht rfl rfl (fun id h _ => List.mem_append_left _ h) (fun id h _ => h) (fun b h _ => h)
      fun id _ => rfl

/-- The execution of a launched task is announced. -/
theorem step_announce (hb : p.Balanced) (hk : k ∈ p.launched) :
    (p.step (.announce k)).scheduler = p.scheduler.announce k ∧ (p.step (.announce k)).Stands k .executing ∧
      (p.step (.announce k)).endingsOf k = p.endingsOf k ∧ p.Touches (p.step (.announce k)) k := by
  obtain ⟨t, ht, -⟩ := hb.running_of_launched hk
  have hself : p.scheduler.tasks.set k t = p.scheduler.tasks := by
    obtain ⟨hlt, hget⟩ := List.getElem?_eq_some_iff.mp ht
    rw [← hget, List.set_getElem_self]
  have hannounce : p.scheduler.announce k = p.scheduler.emit (.started k t.kind t.attempts) := by
    rw [Scheduler.announce, ht]
  rw [step, if_pos hk, hannounce]
  refine ⟨rfl, List.mem_append_right _ (List.mem_singleton_self k), rfl, ?_⟩
  exact touches_of_set ht hself.symm rfl (fun id h hid => (List.mem_erase_of_ne hid).mpr h)
    (fun id h _ => List.mem_append_left _ h) (fun b h _ => h) fun id _ => rfl

/-- An execution ends. Its task rests before another attempt or has come to its end. -/
theorem step_finish (hk : k ∈ p.executing) (ending : Ending ω) (ht : p.scheduler.task? k = some t) :
    ∃ pause?, p.scheduler.finish k (ending.outcome t.timeoutMs) = (pause?, (p.step (.finish k ending)).scheduler) ∧
      (∀ b ∈ pause?, (p.step (.finish k ending)).Stands k (.resting b)) ∧
      (pause? = none → (p.step (.finish k ending)).Stands k .idle) ∧
      (p.step (.finish k ending)).endingsOf k = p.endingsOf k ++ [ending] ∧
      p.Touches (p.step (.finish k ending)) k := by
  have hlimit : p.timeoutMs k = t.timeoutMs := by rw [timeoutMs, ht, Option.map_some, Option.getD_some]
  have hstep : p.step (.finish k ending) = { p with
      scheduler := (p.scheduler.finish k (ending.outcome t.timeoutMs)).2
      executing := p.executing.erase k
      resting := p.resting ++ (p.scheduler.finish k (ending.outcome t.timeoutMs)).1.toList
      ended := p.ended ++ [(k, ending)] } := by
    simp only [step, if_pos hk, hlimit]
  have hended : (p.step (.finish k ending)).ended = p.ended ++ [(k, ending)] := by rw [hstep]
  have hendings := endingsOf_append hended
  rw [Scheduler.finish_eq ht] at hstep ⊢
  generalize ending.outcome t.timeoutMs = o at hstep
  have htasks : (p.step (.finish k ending)).scheduler.tasks = p.scheduler.tasks.set k (p.scheduler.settled t o) := by
    rw [hstep]
  refine ⟨p.scheduler.pause? k t o, by rw [hstep], fun b hpause => ?_, fun hpause => ?_, ?_, ?_⟩
  · rw [Option.mem_def] at hpause
    have htask : b.task = k := by
      simp only [Scheduler.pause?] at hpause
      split at hpause
      · cases hpause
        rfl
      · cases hpause
    refine ⟨?_, htask⟩
    rw [hstep]
    simp [hpause]
  · have hstatus := Scheduler.status?_of_set htasks (Scheduler.lt_length_of_task? ht)
    have hfinal : (p.scheduler.settled t o).status.isFinal = true := by
      rcases p.scheduler.settled_status t o with hretrying | hfinal
      · simp [Scheduler.pause?, hretrying] at hpause
      · exact hfinal
    rw [Stands, hstatus, Function.update_self]
    constructor
    · intro heq
      rw [Option.some.inj heq] at hfinal
      cases hfinal
    · intro heq
      rw [Option.some.inj heq] at hfinal
      cases hfinal
  · rw [hendings, if_pos rfl]
  · refine touches_of_set ht htasks ?_ ?_ ?_ ?_ ?_
    · rw [hstep]
    · rw [hstep]
      exact fun id h _ => h
    · rw [hstep]
      exact fun id h hid => (List.mem_erase_of_ne hid).mpr h
    · rw [hstep]
      exact fun b h _ => List.mem_append_left _ h
    · intro id hid
      rw [hendings, if_neg hid, List.append_nil]

/-- A delay runs out. -/
theorem step_requeue (hb : p.Balanced) {b : Backoff} (hr : b ∈ p.resting) :
    (p.step (.requeue b)).scheduler = p.scheduler.requeue b ∧ (p.step (.requeue b)).Stands b.task .idle ∧
      (p.step (.requeue b)).endingsOf b.task = p.endingsOf b.task ∧ p.Touches (p.step (.requeue b)) b.task := by
  obtain ⟨t, ht, -⟩ := hb.retrying_of_resting hr
  have hstep : p.step (.requeue b) =
      { p with scheduler := p.scheduler.requeue b, resting := p.resting.erase b } := by
    simp only [step, if_pos hr]
  have htasks : (p.step (.requeue b)).scheduler.tasks =
      p.scheduler.tasks.set b.task { t with status := .pending } := by
    rw [hstep, Scheduler.requeue_eq ht]
  have hended : (p.step (.requeue b)).ended = p.ended := by rw [hstep]
  refine ⟨by rw [hstep], ?_, endingsOf_congr hended _, ?_⟩
  · rw [Stands, Scheduler.status?_of_set htasks (Scheduler.lt_length_of_task? ht), Function.update_self]
    simp
  · refine touches_of_set ht htasks ?_ ?_ ?_ ?_ fun id _ => endingsOf_congr hended id
    · rw [hstep, Scheduler.requeue_eq ht]
    · rw [hstep]
      exact fun id h _ => h
    · rw [hstep]
      exact fun id h _ => h
    · rw [hstep]
      intro c hc htask
      refine (List.mem_erase_of_ne ?_).mpr hc
      rintro rfl
      exact htask rfl

end Steps

end Pool

end CodeAudit
