import CodeAudit.Proofs.Tasks.Bookkeeping

/-! The attempts at a task and how its record tells them. A failed attempt is repeated until the
retries are used up, refused input is never tried again, and a task that has come to its end stays
as it is. -/
namespace CodeAudit

/-- An error, a panic or a passed time limit: the attempt may be repeated. -/
def Ending.isRetryable {ω : Type} : Ending ω → Bool
  | answered (.error _) | answered (.panic _) | timedOut => true
  | refused _ | answered (.output _) => false

theorem Ending.outcome_of_isRetryable {ω : Type} {e : Ending ω} (h : e.isRetryable = true) (ms : Nat) :
    ∃ error, e.outcome ms = .failed error := by
  cases e with
  | refused reason => simp [isRetryable] at h
  | timedOut => exact ⟨_, rfl⟩
  | answered reply =>
    cases reply with
    | output v => simp [isRetryable] at h
    | error message => exact ⟨_, rfl⟩
    | panic message => exact ⟨_, rfl⟩

/-- The record of a task against the endings of its executions. Before its end all of them could be
repeated and a retry is left; what ends it is the last of them. -/
inductive Task.Accounts {ι ω : Type} : Task ι ω → List (Ending ω) → Prop
  | waiting {t : Task ι ω} {es : List (Ending ω)} (hstatus : t.status = .pending ∨ t.status = .retrying)
      (hes : ∀ e ∈ es, e.isRetryable = true) (hleft : es.length ≤ t.maxRetries)
      (hattempts : t.attempts = es.length) : Accounts t es
  | running {t : Task ι ω} {es : List (Ending ω)} (hstatus : t.status = .running)
      (hes : ∀ e ∈ es, e.isRetryable = true) (hleft : es.length ≤ t.maxRetries)
      (hattempts : t.attempts = es.length + 1) : Accounts t es
  | completed {t : Task ι ω} {es : List (Ending ω)} {v : ω} (hstatus : t.status = .completed)
      (hes : ∀ e ∈ es, e.isRetryable = true) (hleft : es.length ≤ t.maxRetries)
      (hattempts : t.attempts = es.length + 1) (houtput : t.output = some v) (herror : t.error = none) :
      Accounts t (es ++ [.answered (.output v)])
  | exhausted {t : Task ι ω} {es : List (Ending ω)} {e : Ending ω} (hstatus : t.status = .failed)
      (hes : ∀ e ∈ es, e.isRetryable = true) (he : e.isRetryable = true) (hlast : es.length = t.maxRetries)
      (hattempts : t.attempts = es.length + 1) : Accounts t (es ++ [e])
  | refused {t : Task ι ω} {es : List (Ending ω)} {reason : String} (hstatus : t.status = .failed)
      (hes : ∀ e ∈ es, e.isRetryable = true) (hleft : es.length ≤ t.maxRetries)
      (hattempts : t.attempts = es.length + 1) : Accounts t (es ++ [.refused reason])

namespace Pool

variable {ι ω : Type} {p : Pool ι ω} {id : Nat} {t : Task ι ω}

/-- What an action may do to the record of a task, if there is one yet, and the endings of its
executions. -/
inductive Moves (s : Scheduler ι ω) (es : List (Ending ω)) :
    Option (Task ι ω) → Option (Task ι ω) → List (Ending ω) → Prop
  | stay {x : Option (Task ι ω)} : Moves s es x x es
  | submit (kind : String) (input : ι) (options : TaskOptions) :
      Moves s es none (some (s.newTask kind input options)) es
  | rank {t : Task ι ω} (q : Priority) (h : t.status = .pending) :
      Moves s es (some t) (some { t with priority := q }) es
  | launch {t : Task ι ω} (h : t.status = .pending) :
      Moves s es (some t) (some { t with status := .running, attempts := t.attempts + 1 }) es
  | settle {t : Task ι ω} (e : Ending ω) (h : t.status = .running) :
      Moves s es (some t) (some (s.settled t (e.outcome t.timeoutMs))) (es ++ [e])
  | wake {t : Task ι ω} (h : t.status = .retrying) :
      Moves s es (some t) (some { t with status := .pending }) es

theorem endingsOf_congr {p' : Pool ι ω} (hended : p'.ended = p.ended) (id : Nat) :
    p'.endingsOf id = p.endingsOf id := by rw [endingsOf, hended, endingsOf]

theorem endingsOf_append {p' : Pool ι ω} {k : Nat} {e : Ending ω} (hended : p'.ended = p.ended ++ [(k, e)])
    (id : Nat) : p'.endingsOf id = p.endingsOf id ++ if id = k then [e] else [] := by
  rw [endingsOf, hended, List.filter_append, List.map_append, endingsOf]
  by_cases hk : id = k
  · simp [hk]
  · simp [hk, Ne.symm hk]

/-- An action that replaces one task is a move for all, if it is one for that task. -/
theorem moves_of_set {p' : Pool ι ω} {k : Nat} {u u' : Task ι ω} (hu : p.scheduler.task? k = some u)
    (htasks : p'.scheduler.tasks = p.scheduler.tasks.set k u')
    (hmove : Moves p.scheduler (p.endingsOf k) (some u) (some u') (p'.endingsOf k))
    (hothers : ∀ id, id ≠ k → p'.endingsOf id = p.endingsOf id) (id : Nat) :
    Moves p.scheduler (p.endingsOf id) (p.scheduler.task? id) (p'.scheduler.task? id) (p'.endingsOf id) := by
  rw [Scheduler.task?_of_set htasks (Scheduler.lt_length_of_task? hu)]
  by_cases hid : id = k
  · subst k
    rw [hu, if_pos rfl]
    exact hmove
  · rw [if_neg hid, hothers id hid]
    exact .stay

/-- Every action is one of the moves for every task. -/
theorem step_moves (h : p.Balanced) (a : Action ι ω) (id : Nat) :
    Moves p.scheduler (p.endingsOf id) (p.scheduler.task? id) ((p.step a).scheduler.task? id)
      ((p.step a).endingsOf id) := by
  cases a with
  | register kind =>
    simp only [step, Scheduler.register]
    split <;> exact .stay
  | add kind input options =>
    simp only [step]
    split
    case h_2 => exact .stay
    case h_1 k s' hadd =>
      obtain ⟨-, -, hr⟩ := Scheduler.add_ok_iff.mp hadd
      have htasks : s'.tasks = p.scheduler.tasks ++ [p.scheduler.newTask kind input options] := by
        rw [(Prod.mk.inj hr).2]
      rw [Scheduler.task?_of_append htasks]
      split
      case isTrue hid =>
        rw [hid, Scheduler.task?_length]
        exact .submit kind input options
      case isFalse => exact .stay
  | updatePriority k q =>
    obtain ⟨e, he, -⟩ | ⟨u, hu, hstatus, ⟨-, hupdate⟩ | hmissing⟩ := p.scheduler.updatePriority_cases k q
    · simp only [step, he]
      exact .stay
    · have htasks : (p.step (.updatePriority k q)).scheduler.tasks =
          p.scheduler.tasks.set k { u with priority := q } := by simp only [step, hupdate]
      exact moves_of_set hu htasks (.rank q hstatus) (fun _ _ => rfl) id
    · refine False.elim (hmissing ((h.pending.mem_iff k).mpr ?_))
      rw [Scheduler.status?_of_task? hu, hstatus]
  | start => exact .stay
  | stop => exact .stay
  | dispatch =>
    obtain hnone | ⟨e, u, -, hfirst, hu, hdispatch⟩ := Scheduler.dispatch_cases h.queue_known
    · simp only [step, hnone]
      exact .stay
    · have hpending := (h.pending.mem_iff e.task).mp (List.mem_map_of_mem (QueueEntry.mem_of_first? hfirst))
      rw [Scheduler.status?_of_task? hu, Option.some.injEq] at hpending
      have htasks : (p.step .dispatch).scheduler.tasks = p.scheduler.tasks.set e.task
          { u with status := .running, attempts := u.attempts + 1 } := by simp only [step, hdispatch]; rfl
      have hended : (p.step .dispatch).ended = p.ended := by simp only [step, hdispatch]
      refine moves_of_set hu htasks ?_ (fun id _ => endingsOf_congr hended id) id
      rw [endingsOf_congr hended]
      exact .launch hpending
  | announce k =>
    simp only [step, Scheduler.announce]
    split
    · split <;> exact .stay
    · exact .stay
  | finish k e =>
    by_cases hk : k ∈ p.executing
    · obtain ⟨u, hu, hrunning⟩ := h.running_of_executing hk
      have htasks : (p.step (.finish k e)).scheduler.tasks =
          p.scheduler.tasks.set k (p.scheduler.settled u (e.outcome u.timeoutMs)) := by
        simp only [step, if_pos hk, Scheduler.finish_eq hu, timeoutMs, hu, Option.map_some, Option.getD_some]
      have hended : (p.step (.finish k e)).ended = p.ended ++ [(k, e)] := by simp only [step, if_pos hk]
      refine moves_of_set hu htasks ?_ (fun i hi => ?_) id
      · rw [endingsOf_append hended, if_pos rfl]
        exact .settle e hrunning
      · rw [endingsOf_append hended, if_neg hi, List.append_nil]
    · simp only [step, if_neg hk]
      exact .stay
  | requeue b =>
    by_cases hb : b ∈ p.resting
    · obtain ⟨u, hu, hretrying⟩ := h.retrying_of_resting hb
      have htasks : (p.step (.requeue b)).scheduler.tasks =
          p.scheduler.tasks.set b.task { u with status := .pending } := by
        simp only [step, if_pos hb, Scheduler.requeue_eq hu]
      have hended : (p.step (.requeue b)).ended = p.ended := by simp only [step, if_pos hb]
      refine moves_of_set hu htasks ?_ (fun id _ => endingsOf_congr hended id) id
      rw [endingsOf_congr hended]
      exact .wake hretrying
    · simp only [step, if_neg hb]
      exact .stay

/-- A task that has come to its end does not move any more. -/
theorem Moves.eq_of_isFinal {s : Scheduler ι ω} {es es' : List (Ending ω)} {x : Option (Task ι ω)}
    (h : Moves s es (some t) x es') (hfinal : t.status.isFinal = true) : x = some t ∧ es' = es := by
  cases h with
  | stay => exact ⟨rfl, rfl⟩
  | rank q hs => simp [hs, TaskStatus.isFinal] at hfinal
  | launch hs => simp [hs, TaskStatus.isFinal] at hfinal
  | settle e hs => simp [hs, TaskStatus.isFinal] at hfinal
  | wake hs => simp [hs, TaskStatus.isFinal] at hfinal

/-- The account of a task that runs, once its execution has ended. -/
theorem accounts_settled {s : Scheduler ι ω} {es : List (Ending ω)} (e : Ending ω)
    (hes : ∀ d ∈ es, d.isRetryable = true) (hleft : es.length ≤ t.maxRetries)
    (hattempts : t.attempts = es.length + 1) :
    (s.settled t (e.outcome t.timeoutMs)).Accounts (es ++ [e]) := by
  cases he : e.isRetryable with
  | true =>
    obtain ⟨error, ho⟩ := Ending.outcome_of_isRetryable he t.timeoutMs
    by_cases hr : t.attempts ≤ t.maxRetries
    · simp only [ho, Scheduler.settled, Task.canRetry, hr, decide_true, if_true]
      refine .waiting (.inr rfl) ?_ ?_ ?_
      · intro d hd
        rcases List.mem_append.mp hd with hd | hd
        · exact hes d hd
        · exact List.mem_singleton.mp hd ▸ he
      · simp only [Scheduler.retried, List.length_append, List.length_singleton]
        omega
      · simpa [Scheduler.retried] using hattempts
    · -- the retries are used up
      simp only [ho, Scheduler.settled, Task.canRetry, hr, decide_false, Bool.false_eq_true, if_false]
      refine .exhausted rfl hes he ?_ hattempts
      show es.length = t.maxRetries
      omega
  | false =>
    cases e with
    | refused reason => exact .refused rfl hes hleft hattempts
    | timedOut => simp [Ending.isRetryable] at he
    | answered reply =>
      cases reply with
      | output v => exact .completed rfl hes hleft hattempts rfl rfl
      | error message => simp [Ending.isRetryable] at he
      | panic message => simp [Ending.isRetryable] at he

/-- The record of a task fits the endings of its executions; without a record there are none. -/
def Fits (es : List (Ending ω)) : Option (Task ι ω) → Prop
  | none => es = []
  | some t => t.Accounts es

theorem Moves.fits {s : Scheduler ι ω} {es es' : List (Ending ω)} {x x' : Option (Task ι ω)}
    (hm : Moves s es x x' es') (h : Fits es x) : Fits es' x' := by
  cases hm with
  | stay => exact h
  | submit kind input options =>
    obtain rfl : es = [] := h
    exact .waiting (.inl rfl) (by simp) (Nat.zero_le _) rfl
  | rank q hs =>
    cases h with
    | waiting _ hes hleft hattempts => exact .waiting (.inl hs) hes hleft hattempts
    | running hstatus | completed hstatus | exhausted hstatus | refused hstatus => simp [hs] at hstatus
  | launch hs =>
    cases h with
    | waiting _ hes hleft hattempts => exact .running rfl hes hleft (congrArg (· + 1) hattempts)
    | running hstatus | completed hstatus | exhausted hstatus | refused hstatus => simp [hs] at hstatus
  | wake hs =>
    cases h with
    | waiting _ hes hleft hattempts => exact .waiting (.inl rfl) hes hleft hattempts
    | running hstatus | completed hstatus | exhausted hstatus | refused hstatus => simp [hs] at hstatus
  | settle e hs =>
    cases h with
    | running _ hes hleft hattempts => exact accounts_settled e hes hleft hattempts
    | waiting hstatus | completed hstatus | exhausted hstatus | refused hstatus => simp [hs] at hstatus

/-- In every state of every run, the record of a task fits the endings of its executions. -/
theorem fits_run (config : SchedulerConfig) (actions : List (Action ι ω)) (id : Nat) :
    Fits (((initial config).run actions).endingsOf id) (((initial config).run actions).scheduler.task? id) := by
  have h := run_induction (P := fun p => p.Balanced ∧ ∀ id, Fits (p.endingsOf id) (p.scheduler.task? id))
    (fun p a hp => ⟨balanced_step p a hp.1, fun id => (step_moves hp.1 a id).fits (hp.2 id)⟩)
    (p := initial config) ⟨.initial config, fun _ => rfl⟩ actions
  exact h.2 id

/-- Nothing that follows changes a task that has come to its end. -/
theorem task?_run_of_isFinal (h : p.Balanced) (ht : p.scheduler.task? id = some t)
    (hfinal : t.status.isFinal = true) (later : List (Action ι ω)) :
    (p.run later).scheduler.task? id = some t ∧ (p.run later).endingsOf id = p.endingsOf id := by
  have hstep : ∀ (q : Pool ι ω) a, q.Balanced ∧ q.scheduler.task? id = some t ∧ q.endingsOf id = p.endingsOf id →
      (q.step a).Balanced ∧ (q.step a).scheduler.task? id = some t ∧
        (q.step a).endingsOf id = p.endingsOf id := by
    rintro q a ⟨hq, htask, hendings⟩
    have hm := step_moves hq a id
    rw [htask] at hm
    obtain ⟨hx, he⟩ := hm.eq_of_isFinal hfinal
    exact ⟨balanced_step q a hq, hx, he.trans hendings⟩
  exact (run_induction hstep ⟨h, ht, rfl⟩ later).2

end Pool

namespace Task.Accounts

variable {ι ω : Type} {t : Task ι ω} {es : List (Ending ω)}

theorem attempts_le (h : t.Accounts es) : t.attempts ≤ t.maxRetries + 1 := by
  cases h <;> omega

/-- A failure that could be repeated ends a task only with its last attempt. -/
theorem attempts_of_failed {before : List (Ending ω)} {e : Ending ω} (h : t.Accounts (before ++ [e]))
    (he : e.isRetryable = true) (hfailed : t.status = .failed) : t.attempts = t.maxRetries + 1 := by
  generalize hall : before ++ [e] = es at h
  cases h with
  | waiting hstatus | running hstatus | completed hstatus => simp [hfailed] at hstatus
  | exhausted _ _ _ hlast hattempts => omega
  | refused hstatus _ _ _ =>
    obtain ⟨-, hlast⟩ := List.append_inj' hall rfl
    simp only [List.cons.injEq, and_true] at hlast
    simp [hlast, Ending.isRetryable] at he

/-- An output ends a task as completed, with this output and no error. -/
theorem completed_of_output {before : List (Ending ω)} {v : ω}
    (h : t.Accounts (before ++ [.answered (.output v)])) :
    t.status = .completed ∧ t.attempts = before.length + 1 ∧ t.error = none ∧ t.output = some v := by
  generalize hall : before ++ [Ending.answered (.output v)] = es at h
  have hmem : Ending.answered (.output v) ∈ es := hall ▸ List.mem_append_right _ (List.mem_singleton_self _)
  cases h with
  | waiting _ hes | running _ hes => simpa [Ending.isRetryable] using hes _ hmem
  | completed hstatus _ _ hattempts houtput herror =>
    obtain ⟨rfl, hlast⟩ := List.append_inj' hall rfl
    simp only [List.cons.injEq, Ending.answered.injEq, Reply.output.injEq, and_true] at hlast
    exact ⟨hstatus, hattempts, herror, hlast ▸ houtput⟩
  | exhausted _ _ he =>
    obtain ⟨-, hlast⟩ := List.append_inj' hall rfl
    simp only [List.cons.injEq, and_true] at hlast
    simp [← hlast, Ending.isRetryable] at he
  | refused =>
    obtain ⟨-, hlast⟩ := List.append_inj' hall rfl
    simp at hlast

/-- Refused input ends a task as failed; there is no attempt after it. -/
theorem failed_of_refused {before after : List (Ending ω)} {reason : String}
    (h : t.Accounts (before ++ .refused reason :: after)) :
    t.status = .failed ∧ after = [] ∧ t.attempts = before.length + 1 := by
  generalize hall : before ++ Ending.refused reason :: after = es at h
  -- all endings but the last one could be repeated, so that the refusal is the last one
  have hlast : ∀ {es₀ : List (Ending ω)} {e : Ending ω}, (∀ d ∈ es₀, d.isRetryable = true) →
      before ++ Ending.refused reason :: after = es₀ ++ [e] →
      after = [] ∧ before = es₀ ∧ e = .refused reason := by
    intro es₀ e hes heq
    rcases List.eq_nil_or_concat after with rfl | ⟨rest, d, rfl⟩
    · obtain ⟨hbefore, hend⟩ := List.append_inj' heq rfl
      simp only [List.cons.injEq, and_true] at hend
      exact ⟨rfl, hbefore, hend.symm⟩
    · have heq' : (before ++ Ending.refused reason :: rest) ++ [d] = es₀ ++ [e] := by simpa using heq
      obtain ⟨hinit, -⟩ := List.append_inj' heq' rfl
      have := hes (.refused reason) (hinit ▸ by simp)
      simp [Ending.isRetryable] at this
  have hmem : Ending.refused reason ∈ es := hall ▸ List.mem_append_right _ List.mem_cons_self
  cases h with
  | waiting _ hes | running _ hes => simpa [Ending.isRetryable] using hes _ hmem
  | completed _ hes =>
    obtain ⟨-, -, he⟩ := hlast hes hall
    simp at he
  | exhausted _ hes hretry =>
    obtain ⟨-, -, he⟩ := hlast hes hall
    simp [he, Ending.isRetryable] at hretry
  | refused hstatus hes _ hattempts =>
    obtain ⟨hafter, rfl, -⟩ := hlast hes hall
    exact ⟨hstatus, hafter, hattempts⟩

end Task.Accounts

/-- Attempts never exceed the retries by more than one and fit 32 bits; a repeatable failure ends a
task only with the last attempt; the first output completes it; refused input fails it at once; and
what has come to its end stays as it is. -/
theorem attempts_bounded_and_final {ι ω : Type} (config : SchedulerConfig) (actions later : List (Action ι ω))
    {id : Nat} {t : Task ι ω} (ht : ((Pool.initial config).run actions).scheduler.task? id = some t)
    (hretries : t.maxRetries < bound32 - 1) :
    let p := (Pool.initial config).run actions
    t.attempts ≤ t.maxRetries + 1 ∧ t.attempts < bound32 ∧
      (∀ before e, p.endingsOf id = before ++ [e] → e.isRetryable = true → t.status = .failed →
        t.attempts = t.maxRetries + 1) ∧
      (∀ before v, p.endingsOf id = before ++ [.answered (.output v)] →
        (∀ e ∈ before, e.isRetryable = true) →
        t.status = .completed ∧ t.attempts = before.length + 1 ∧ t.error = none ∧ t.output = some v) ∧
      (∀ before reason after, p.endingsOf id = before ++ .refused reason :: after →
        t.status = .failed ∧ after = [] ∧ t.attempts = before.length + 1) ∧
      (t.status.isFinal = true →
        (p.run later).scheduler.task? id = some t ∧ (p.run later).endingsOf id = p.endingsOf id) := by
  intro p
  have h : t.Accounts (p.endingsOf id) := by
    have hfits := Pool.fits_run config actions id
    rw [ht] at hfits
    exact hfits
  have hle := h.attempts_le
  refine ⟨hle, ?_, ?_, ?_, ?_, ?_⟩
  · omega
  · intro before e hendings he hfailed
    rw [hendings] at h
    exact h.attempts_of_failed he hfailed
  · intro before v hendings _
    rw [hendings] at h
    exact h.completed_of_output
  · intro before reason after hendings
    rw [hendings] at h
    exact h.failed_of_refused
  · intro hfinal
    exact Pool.task?_run_of_isFinal (Pool.balanced_run config actions) ht hfinal later

/-- A task that times out once and then gives an output, while another one is submitted and waits. -/
def secondAttemptActions : List (Action Unit Nat) :=
  [.register "sum", .add "sum" () { maxRetries := some 1 }, .start, .dispatch, .announce 0,
   .add "sum" () { priority := .critical }, .finish 0 .timedOut, .stop, .start,
   .requeue ⟨0, 1000, .high⟩, .updatePriority 1 .low, .dispatch, .announce 0,
   .finish 0 (.answered (.output 7))]

/-- The record that such a task ends with. -/
def secondAttemptTask : Task Unit Nat where
  kind := "sum"
  input := ()
  priority := .high
  maxRetries := 1
  timeoutMs := 30000
  status := .completed
  attempts := 2
  output := some 7

/-- The second attempt counts, the time limit of the first one leaves no error, and nothing later
changes the record. -/
theorem second_attempt_completes :
    let p := (Pool.initial {}).run secondAttemptActions
    p.scheduler.task? 0 = some secondAttemptTask ∧
      p.endingsOf 0 = [.timedOut] ++ [.answered (.output 7)] ∧
      secondAttemptTask.attempts ≤ secondAttemptTask.maxRetries + 1 ∧
      (secondAttemptTask.status = .completed ∧ secondAttemptTask.attempts = 2 ∧
        secondAttemptTask.error = none ∧ secondAttemptTask.output = some 7) ∧
      ∀ later, (p.run later).scheduler.task? 0 = some secondAttemptTask := by
  intro p
  have ht : p.scheduler.task? 0 = some secondAttemptTask := rfl
  have hendings : p.endingsOf 0 = [.timedOut] ++ [.answered (.output 7)] := rfl
  have h := fun later => attempts_bounded_and_final {} secondAttemptActions later ht (by decide)
  obtain ⟨hle, -, -, hcompleted, -, -⟩ := h []
  refine ⟨ht, hendings, hle, hcompleted [.timedOut] 7 hendings (by simp [Ending.isRetryable]), ?_⟩
  intro later
  obtain ⟨-, -, -, -, -, hfinal⟩ := h later
  exact (hfinal rfl).1

end CodeAudit
