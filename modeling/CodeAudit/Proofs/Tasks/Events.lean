import CodeAudit.Proofs.Tasks.Attempts

/-! The events of a task among those of all others: one for the beginning of each execution and one for
its end. They tell the attempts in order, follow one course from the first attempt to the last, and
end with it. -/
namespace CodeAudit

namespace TaskEvent

def isRetry : TaskEvent → Bool
  | retrying .. => true
  | started .. | completed .. | failed .. => false

/-- The last word on a task. -/
def Ends (id : Nat) (e : TaskEvent) : Prop := e = completed id ∨ ∃ error, e = failed id error

/-- Attempts that fail one after the other, each followed by a delay. -/
def rounds (baseMs id : Nat) (kind : String) (errors : List String) : List TaskEvent :=
  errors.zipIdx.flatMap fun (error, i) =>
    [started id kind (i + 1), retrying id (i + 1) (backoffMs baseMs (i + 1)) error]

/-- All there is to tell of a task: failed attempts, and a last one with its end. -/
def course (baseMs id : Nat) (kind : String) (errors : List String) (last : TaskEvent) : List TaskEvent :=
  rounds baseMs id kind errors ++ [started id kind (errors.length + 1), last]

theorem rounds_concat (baseMs id : Nat) (kind : String) (errors : List String) (error : String) :
    rounds baseMs id kind (errors ++ [error]) = rounds baseMs id kind errors ++
      [started id kind (errors.length + 1),
       retrying id (errors.length + 1) (backoffMs baseMs (errors.length + 1)) error] := by
  simp [rounds, List.zipIdx_append]

/-- Nothing that is told of a task before its last attempt ends is the last word on it. -/
theorem not_ends_of_mem_rounds {baseMs id attempt : Nat} {kind : String} {errors : List String} {e : TaskEvent}
    (he : e ∈ rounds baseMs id kind errors ++ [started id kind attempt]) : ¬ e.Ends id := by
  rintro (rfl | ⟨error, rfl⟩) <;> simp [rounds] at he

end TaskEvent

/-- What a task is told at its submission and keeps. -/
structure Task.Kin {ι ω : Type} (t t' : Task ι ω) : Prop where
  kind : t'.kind = t.kind
  maxRetries : t'.maxRetries = t.maxRetries
  timeoutMs : t'.timeoutMs = t.timeoutMs

namespace Scheduler

variable {ι ω : Type} {s s' : Scheduler ι ω} {id : Nat} {t t' : Task ι ω}

theorem kin_settled (s : Scheduler ι ω) (t : Task ι ω) (o : Outcome ω) : t.Kin (s.settled t o) := by
  cases o with
  | completed v => exact ⟨rfl, rfl, rfl⟩
  | rejected error => exact ⟨rfl, rfl, rfl⟩
  | failed error =>
    simp only [settled]
    split <;> exact ⟨rfl, rfl, rfl⟩

/-- What attempts that ended so have told, the first one first. -/
def tale (s : Scheduler ι ω) (id : Nat) (t : Task ι ω) (es : List (Ending ω)) : List TaskEvent :=
  es.zipIdx.flatMap fun (e, i) =>
    [.started id t.kind (i + 1), s.notice id { t with attempts := i + 1 } (e.outcome t.timeoutMs)]

theorem tale_concat (s : Scheduler ι ω) (id : Nat) (t : Task ι ω) (es : List (Ending ω)) (e : Ending ω) :
    s.tale id t (es ++ [e]) = s.tale id t es ++
      [.started id t.kind (es.length + 1),
       s.notice id { t with attempts := es.length + 1 } (e.outcome t.timeoutMs)] := by
  simp [tale, List.zipIdx_append]

theorem notice_congr (hconfig : s'.config = s.config) (hkin : t.Kin t') (hattempts : t'.attempts = t.attempts)
    (o : Outcome ω) : s'.notice id t' o = s.notice id t o := by
  cases o with
  | completed v => rfl
  | rejected error => rfl
  | failed error =>
    have hretry : t'.canRetry = t.canRetry := by
      unfold Task.canRetry
      rw [hkin.maxRetries, hattempts]
    rw [notice, notice, hretry, delayMs, delayMs, hconfig, hattempts]

theorem tale_congr (hconfig : s'.config = s.config) (hkin : t.Kin t') (es : List (Ending ω)) :
    s'.tale id t' es = s.tale id t es := by
  unfold tale
  congr 1
  funext ⟨e, i⟩
  have hnext : ({ t with attempts := i + 1 } : Task ι ω).Kin { t' with attempts := i + 1 } := { hkin with }
  dsimp only
  rw [notice_congr hconfig hnext rfl, hkin.kind, hkin.timeoutMs]

theorem notice_task (s : Scheduler ι ω) (id : Nat) (t : Task ι ω) (o : Outcome ω) : (s.notice id t o).task = id := by
  cases o with
  | completed v => rfl
  | rejected error => rfl
  | failed error =>
    simp only [notice]
    split <;> rfl

/-- A retry is told exactly if the task waits for one. -/
theorem notice_isRetry (s : Scheduler ι ω) (id : Nat) (t : Task ι ω) (o : Outcome ω) :
    (s.notice id t o).isRetry = true ↔ (s.settled t o).status = .retrying := by
  cases o with
  | completed v => simp [notice, settled, TaskEvent.isRetry]
  | rejected error => simp [notice, settled, TaskEvent.isRetry]
  | failed error => cases hr : t.canRetry <;> simp [notice, settled, TaskEvent.isRetry, hr, retried]

/-- Endings that can all be repeated have told of nothing but retries. -/
theorem tale_eq_rounds (s : Scheduler ι ω) (id : Nat) {es : List (Ending ω)}
    (hes : ∀ e ∈ es, e.isRetryable = true) (hleft : es.length ≤ t.maxRetries) :
    ∃ errors, List.Forall₂ (fun e error => Ending.outcome t.timeoutMs e = .failed error) es errors ∧
      s.tale id t es = TaskEvent.rounds s.config.baseDelayMs id t.kind errors := by
  induction es using List.reverseRecOn with
  | nil => exact ⟨[], .nil, rfl⟩
  | append_singleton es e ih =>
    rw [List.length_append, List.length_singleton] at hleft
    obtain ⟨errors, hall, htale⟩ := ih (fun d hd => hes d (List.mem_append_left _ hd)) (by omega)
    obtain ⟨error, ho⟩ := Ending.outcome_of_isRetryable (hes e (by simp)) t.timeoutMs
    refine ⟨errors ++ [error], ?_, ?_⟩
    · exact List.rel_append hall (.cons ho .nil)
    · have hretry : ({ t with attempts := es.length + 1 } : Task ι ω).canRetry = true := by
        simpa [Task.canRetry] using hleft
      rw [tale_concat, htale, TaskEvent.rounds_concat, ← hall.length_eq, ho]
      simp only [notice, hretry, if_true]
      rfl

end Scheduler

namespace Pool

variable {ι ω : Type} {p p' : Pool ι ω} {id : Nat} {t : Task ι ω}

/-- The events of a task, in their order. -/
def eventsOf (p : Pool ι ω) (id : Nat) : List TaskEvent := p.scheduler.events.filter fun e => e.task = id

/-- What an action may tell: nothing, that an execution begins, or how one has ended. -/
inductive Tells (p p' : Pool ι ω) : Prop
  | nothing (hevents : p'.scheduler.events = p.scheduler.events) (hexecuting : p'.executing = p.executing)
      (hended : p'.ended = p.ended)
  | beginning {id : Nat} {t : Task ι ω} (hid : id ∈ p.launched) (ht : p.scheduler.task? id = some t)
      (htasks : p'.scheduler.tasks = p.scheduler.tasks)
      (hevents : p'.scheduler.events = p.scheduler.events ++ [.started id t.kind t.attempts])
      (hexecuting : p'.executing = p.executing ++ [id]) (hended : p'.ended = p.ended)
  | ending {id : Nat} {t : Task ι ω} (e : Ending ω) (hid : id ∈ p.executing) (ht : p.scheduler.task? id = some t)
      (htasks : p'.scheduler.tasks = p.scheduler.tasks.set id (p.scheduler.settled t (e.outcome t.timeoutMs)))
      (hevents : p'.scheduler.events =
        p.scheduler.events ++ [p.scheduler.notice id t (e.outcome t.timeoutMs)])
      (hexecuting : p'.executing = p.executing.erase id) (hended : p'.ended = p.ended ++ [(id, e)])

theorem Balanced.running_of_launched (h : p.Balanced) (hid : id ∈ p.launched) :
    ∃ t, p.scheduler.task? id = some t ∧ t.status = .running :=
  Scheduler.status?_eq_some_iff.mp ((h.running.mem_iff id).mp (List.mem_append_left _ hid))

theorem step_tells (h : p.Balanced) (a : Action ι ω) : Tells p (p.step a) := by
  cases a with
  | register kind =>
    simp only [step, Scheduler.register]
    split <;> exact .nothing rfl rfl rfl
  | add kind input options =>
    simp only [step]
    split
    case h_1 k s' hadd =>
      obtain ⟨-, -, hr⟩ := Scheduler.add_ok_iff.mp hadd
      rw [(Prod.mk.inj hr).2]
      exact .nothing rfl rfl rfl
    case h_2 => exact .nothing rfl rfl rfl
  | updatePriority k q =>
    simp only [step, Scheduler.updatePriority]
    split
    · exact .nothing rfl rfl rfl
    · split
      · exact .nothing rfl rfl rfl
      · split <;> exact .nothing rfl rfl rfl
  | start => exact .nothing rfl rfl rfl
  | stop => exact .nothing rfl rfl rfl
  | dispatch =>
    obtain hnone | ⟨e, u, -, -, -, hdispatch⟩ := Scheduler.dispatch_cases h.queue_known
    · simp only [step, hnone]
      exact .nothing rfl rfl rfl
    · simp only [step, hdispatch]
      exact .nothing rfl rfl rfl
  | announce k =>
    by_cases hk : k ∈ p.launched
    · obtain ⟨u, hu, -⟩ := h.running_of_launched hk
      simp only [step, if_pos hk, Scheduler.announce, hu]
      exact .beginning hk hu rfl rfl rfl rfl
    · simp only [step, if_neg hk]
      exact .nothing rfl rfl rfl
  | finish k e =>
    by_cases hk : k ∈ p.executing
    · obtain ⟨u, hu, -⟩ := h.running_of_executing hk
      have htimeout : p.timeoutMs k = u.timeoutMs := by simp [timeoutMs, hu]
      simp only [step, if_pos hk, Scheduler.finish_eq hu, htimeout]
      exact .ending e hk hu rfl rfl rfl rfl
    · simp only [step, if_neg hk]
      exact .nothing rfl rfl rfl
  | requeue b =>
    by_cases hb : b ∈ p.resting
    · obtain ⟨u, hu, -⟩ := h.retrying_of_resting hb
      simp only [step, if_pos hb, Scheduler.requeue_eq hu]
      exact .nothing rfl rfl rfl
    · simp only [step, if_neg hb]
      exact .nothing rfl rfl rfl

theorem eventsOf_congr (h : p'.scheduler.events = p.scheduler.events) (id : Nat) :
    p'.eventsOf id = p.eventsOf id := by rw [eventsOf, h, eventsOf]

theorem eventsOf_concat {e : TaskEvent} (h : p'.scheduler.events = p.scheduler.events ++ [e]) (id : Nat) :
    p'.eventsOf id = p.eventsOf id ++ if e.task = id then [e] else [] := by
  rw [eventsOf, h, List.filter_append, eventsOf]
  by_cases hid : e.task = id <;> simp [hid]

/-- What a task is told at its submission stays, whatever happens to it. -/
theorem Moves.kin {s : Scheduler ι ω} {es es' : List (Ending ω)} {x : Option (Task ι ω)}
    (h : Moves s es (some t) x es') : ∃ t', x = some t' ∧ t.Kin t' := by
  cases h with
  | stay => exact ⟨t, rfl, rfl, rfl, rfl⟩
  | rank q _ => exact ⟨_, rfl, rfl, rfl, rfl⟩
  | launch _ => exact ⟨_, rfl, rfl, rfl, rfl⟩
  | settle e _ => exact ⟨_, rfl, s.kin_settled t _⟩
  | wake _ => exact ⟨_, rfl, rfl, rfl, rfl⟩

/-- The events of a task are those of the executions that ended, and the beginning of one that has not. -/
def Heard (p : Pool ι ω) (id : Nat) : Prop :=
  match p.scheduler.task? id with
  | none => p.eventsOf id = []
  | some t => p.eventsOf id = p.scheduler.tale id t (p.endingsOf id) ++
      if id ∈ p.executing then [.started id t.kind ((p.endingsOf id).length + 1)] else []

theorem heard_of_some (ht : p.scheduler.task? id = some t) :
    p.Heard id ↔ p.eventsOf id = p.scheduler.tale id t (p.endingsOf id) ++
      if id ∈ p.executing then [.started id t.kind ((p.endingsOf id).length + 1)] else [] := by
  simp only [Heard, ht]

/-- Nothing is told of a task that an action does not concern. -/
theorem Heard.transfer (h : p.Balanced) (hheard : p.Heard id) (hfits : Fits (p.endingsOf id) (p.scheduler.task? id))
    (hconfig : p'.scheduler.config = p.scheduler.config)
    (hmoves : Moves p.scheduler (p.endingsOf id) (p.scheduler.task? id) (p'.scheduler.task? id) (p'.endingsOf id))
    (hevents : p'.eventsOf id = p.eventsOf id) (hexecuting : id ∈ p'.executing ↔ id ∈ p.executing)
    (hendings : p'.endingsOf id = p.endingsOf id) : p'.Heard id := by
  cases ht : p.scheduler.task? id with
  | some t =>
    rw [ht] at hmoves
    obtain ⟨t', ht', hkin⟩ := hmoves.kin
    rw [heard_of_some ht', hevents, hendings, Scheduler.tale_congr hconfig hkin, hkin.kind,
      (heard_of_some ht).mp hheard]
    simp only [hexecuting]
  | none =>
    rw [Heard, ht] at hheard
    have hidle : id ∉ p'.executing := by
      rw [hexecuting]
      intro hid
      obtain ⟨u, hu, -⟩ := h.running_of_executing hid
      rw [ht] at hu
      cases hu
    cases ht' : p'.scheduler.task? id with
    | none =>
      rw [Heard, ht']
      exact hevents.trans hheard
    | some t' =>
      rw [ht] at hfits
      have hnone : p.endingsOf id = [] := hfits
      rw [heard_of_some ht', hevents, hheard, hendings, hnone, if_neg hidle]
      rfl

/-- Every action tells what belongs to its task next. -/
theorem heard_step (h : p.Balanced) (hfits : ∀ id, Fits (p.endingsOf id) (p.scheduler.task? id))
    (hheard : ∀ id, p.Heard id) (a : Action ι ω) (id : Nat) : (p.step a).Heard id := by
  have hconfig := config_step h a
  have hmoves := step_moves h a
  have htells := step_tells h a
  generalize p.step a = p' at hconfig hmoves htells ⊢
  -- a running task has one ending less than attempts
  have hrunning : ∀ {t : Task ι ω}, p.scheduler.task? id = some t → t.status = .running →
      t.attempts = (p.endingsOf id).length + 1 := by
    intro t ht hstatus
    have haccount := hfits id
    rw [ht] at haccount
    generalize p.endingsOf id = es at haccount
    cases (haccount : t.Accounts es) with
    | running _ _ _ hattempts => exact hattempts
    | waiting hother => simp [hstatus] at hother
    | completed hother | exhausted hother | refused hother => simp [hstatus] at hother
  cases htells with
  | nothing hevents hexecuting hended =>
    exact (hheard id).transfer h (hfits id) hconfig (hmoves id) (eventsOf_congr hevents id)
      (by rw [hexecuting]) (endingsOf_congr hended id)
  | @beginning k t hk ht htasks hevents hexecuting hended =>
    have hendings := endingsOf_congr hended id
    by_cases hid : k = id
    · subst k
      have hsame : p'.scheduler.task? id = some t := by rw [Scheduler.task?, htasks]; exact ht
      have hidle : id ∉ p.executing := by
        have hnodup := h.running.nodup
        rw [List.nodup_append] at hnodup
        exact fun hmem => hnodup.2.2 id hk id hmem rfl
      obtain ⟨u, hu, hstatus⟩ := h.running_of_launched hk
      obtain rfl : t = u := Option.some.inj (ht.symm.trans hu)
      rw [heard_of_some hsame, eventsOf_concat hevents, (heard_of_some ht).mp (hheard id), if_neg hidle,
        hendings, hexecuting, Scheduler.tale_congr hconfig ⟨rfl, rfl, rfl⟩, hrunning ht hstatus]
      simp [TaskEvent.task]
    · have hother : (TaskEvent.started k t.kind t.attempts).task ≠ id := hid
      refine (hheard id).transfer h (hfits id) hconfig (hmoves id) ?_ ?_ hendings
      · rw [eventsOf_concat hevents, if_neg hother, List.append_nil]
      · rw [hexecuting, List.mem_append, List.mem_singleton]
        simp [Ne.symm hid]
  | @ending k t e hk ht htasks hevents hexecuting hended =>
    have hendings := endingsOf_append hended id
    by_cases hid : k = id
    · subst k
      have hset := Scheduler.task?_of_set htasks (Scheduler.lt_length_of_task? ht) id
      rw [if_pos rfl] at hset
      have hidle : id ∉ p'.executing := by
        rw [hexecuting]
        exact (List.nodup_append.mp h.running.nodup).2.1.not_mem_erase
      obtain ⟨u, hu, hstatus⟩ := h.running_of_executing hk
      obtain rfl : t = u := Option.some.inj (ht.symm.trans hu)
      have hlast : ({ t with attempts := (p.endingsOf id).length + 1 } : Task ι ω) = t := by
        rw [← hrunning ht hstatus]
      rw [heard_of_some hset, eventsOf_concat hevents, if_pos (Scheduler.notice_task ..),
        (heard_of_some ht).mp (hheard id), if_pos hk, hendings, if_pos rfl, if_neg hidle, List.append_nil,
        Scheduler.tale_congr hconfig (p.scheduler.kin_settled t _), Scheduler.tale_concat, hlast,
        List.append_assoc]
      rfl
    · refine (hheard id).transfer h (hfits id) hconfig (hmoves id) ?_ ?_ ?_
      · rw [eventsOf_concat hevents, Scheduler.notice_task, if_neg hid, List.append_nil]
      · rw [hexecuting, List.mem_erase_of_ne (Ne.symm hid)]
      · rw [hendings, if_neg (Ne.symm hid), List.append_nil]

/-- In every state of every run, the events of a task tell its executions. -/
theorem heard_run (config : SchedulerConfig) (actions : List (Action ι ω)) (id : Nat) :
    ((initial config).run actions).Heard id := by
  have h := run_induction
    (P := fun p => p.Balanced ∧ (∀ id, Fits (p.endingsOf id) (p.scheduler.task? id)) ∧ ∀ id, p.Heard id)
    (fun p a hp => ⟨balanced_step p a hp.1, fun id => (step_moves hp.1 a id).fits (hp.2.1 id),
      heard_step hp.1 hp.2.1 hp.2.2 a⟩)
    (p := initial config) ⟨.initial config, fun _ => rfl, fun _ => rfl⟩ actions
  exact h.2.2 id

end Pool

/-- A task whose attempts failed with the given errors before the one that has the last word: at its end
its endings tell the whole course, and until then the failures alone. -/
structure Task.Story {ι ω : Type} (s : Scheduler ι ω) (id : Nat) (t : Task ι ω) (es : List (Ending ω))
    (errors : List String) (last : TaskEvent) : Prop where
  within : errors.length ≤ t.maxRetries
  ends : TaskEvent.Ends id last
  failed : List.Forall₂ (fun e error => Ending.outcome t.timeoutMs e = .failed error) (es.take errors.length) errors
  ongoing : t.status.isFinal = false →
    es.length = errors.length ∧ s.tale id t es = TaskEvent.rounds s.config.baseDelayMs id t.kind errors
  ended : t.status.isFinal = true → (last = .completed id ↔ t.status = .completed) ∧
    s.tale id t es = TaskEvent.course s.config.baseDelayMs id t.kind errors last

namespace Task

variable {ι ω : Type} {t : Task ι ω} {es : List (Ending ω)}

theorem story_ongoing (s : Scheduler ι ω) (id : Nat) (hes : ∀ e ∈ es, e.isRetryable = true)
    (hleft : es.length ≤ t.maxRetries) (hgoing : t.status.isFinal = false) :
    ∃ errors last, t.Story s id es errors last := by
  obtain ⟨errors, hall, htale⟩ := s.tale_eq_rounds id hes hleft
  refine ⟨errors, .completed id, hall.length_eq ▸ hleft, .inl rfl, ?_, fun _ => ⟨hall.length_eq, htale⟩, ?_⟩
  · rw [← hall.length_eq, List.take_length]
    exact hall
  · intro hfinal
    rw [hgoing] at hfinal
    cases hfinal

theorem story_ended (s : Scheduler ι ω) (id : Nat) {e : Ending ω} {last : TaskEvent}
    (hes : ∀ e ∈ es, e.isRetryable = true) (hleft : es.length ≤ t.maxRetries) (hends : TaskEvent.Ends id last)
    (hfinal : t.status.isFinal = true) (hlast : last = .completed id ↔ t.status = .completed)
    (hnotice : s.notice id { t with attempts := es.length + 1 } (e.outcome t.timeoutMs) = last) :
    ∃ errors last, t.Story s id (es ++ [e]) errors last := by
  obtain ⟨errors, hall, htale⟩ := s.tale_eq_rounds id hes hleft
  refine ⟨errors, last, hall.length_eq ▸ hleft, hends, ?_, ?_, fun _ => ⟨hlast, ?_⟩⟩
  · rw [← hall.length_eq, List.take_left]
    exact hall
  · intro hgoing
    rw [hfinal] at hgoing
    cases hgoing
  · rw [Scheduler.tale_concat, htale, hnotice, hall.length_eq]
    rfl

/-- The account of a task is a story. -/
theorem Accounts.story (h : t.Accounts es) (s : Scheduler ι ω) (id : Nat) :
    ∃ errors last, t.Story s id es errors last := by
  cases h with
  | waiting hstatus hes hleft _ =>
    refine story_ongoing s id hes hleft ?_
    rcases hstatus with hstatus | hstatus <;> rw [hstatus] <;> rfl
  | running hstatus hes hleft _ => exact story_ongoing s id hes hleft (by rw [hstatus]; rfl)
  | completed hstatus hes hleft _ _ _ =>
    exact story_ended s id hes hleft (.inl rfl) (by rw [hstatus]; rfl) (by simp [hstatus]) rfl
  | exhausted hstatus hes he hlast _ =>
    obtain ⟨error, ho⟩ := Ending.outcome_of_isRetryable he t.timeoutMs
    refine story_ended s id hes hlast.le (.inr ⟨error, rfl⟩) (by rw [hstatus]; rfl) (by simp [hstatus]) ?_
    simp [ho, Scheduler.notice, canRetry, hlast]
  | refused hstatus hes hleft _ =>
    exact story_ended s id hes hleft (.inr ⟨_, rfl⟩) (by rw [hstatus]; rfl) (by simp [hstatus]) rfl

end Task

/-- A task that has come to its end is not executed, so that the executions that ended tell it all. -/
theorem Pool.Heard.eq_tale {ι ω : Type} {p : Pool ι ω} {id : Nat} {t : Task ι ω} (hheard : p.Heard id)
    (h : p.Balanced) (ht : p.scheduler.task? id = some t) (hfinal : t.status.isFinal = true) :
    p.eventsOf id = p.scheduler.tale id t (p.endingsOf id) := by
  have hidle : id ∉ p.executing := by
    intro hid
    obtain ⟨u, hu, hrunning⟩ := h.running_of_executing hid
    obtain rfl : t = u := Option.some.inj (ht.symm.trans hu)
    rw [hrunning] at hfinal
    cases hfinal
  rwa [heard_of_some ht, if_neg hidle, List.append_nil] at hheard

namespace Task.Story

variable {ι ω : Type} {p : Pool ι ω} {id : Nat} {t : Task ι ω} {errors : List String} {last : TaskEvent}

/-- At its end, the whole course of a task has been told. -/
theorem eventsOf_ended (hstory : t.Story p.scheduler id (p.endingsOf id) errors last) (h : p.Balanced)
    (ht : p.scheduler.task? id = some t) (hheard : p.Heard id) (hfinal : t.status.isFinal = true) :
    p.eventsOf id = TaskEvent.course p.scheduler.config.baseDelayMs id t.kind errors last :=
  (hheard.eq_tale h ht hfinal).trans (hstory.ended hfinal).2

/-- Until its end, the failures of a task have been told, and maybe that its next attempt begins. -/
theorem eventsOf_ongoing (hstory : t.Story p.scheduler id (p.endingsOf id) errors last)
    (ht : p.scheduler.task? id = some t) (hheard : p.Heard id) (hgoing : t.status.isFinal = false) :
    p.eventsOf id <+: TaskEvent.rounds p.scheduler.config.baseDelayMs id t.kind errors ++
      [.started id t.kind (errors.length + 1)] := by
  obtain ⟨hlength, htale⟩ := hstory.ongoing hgoing
  rw [(Pool.heard_of_some ht).mp hheard, htale, hlength]
  split
  · exact List.prefix_refl _
  · rw [List.append_nil]
    exact List.prefix_append _ _

/-- The events of a task follow its course, up to the point that it has come to. -/
theorem eventsOf_follow (hstory : t.Story p.scheduler id (p.endingsOf id) errors last) (h : p.Balanced)
    (ht : p.scheduler.task? id = some t) (hheard : p.Heard id) :
    p.eventsOf id <+: TaskEvent.course p.scheduler.config.baseDelayMs id t.kind errors last := by
  cases hfinal : t.status.isFinal with
  | true => exact ⟨[], (List.append_nil _).trans (hstory.eventsOf_ended h ht hheard hfinal)⟩
  | false =>
    refine (hstory.eventsOf_ongoing ht hheard hfinal).trans ⟨[last], ?_⟩
    simp [TaskEvent.course]

/-- The last word on a task is told only at its end. -/
theorem isFinal_of_ends (hstory : t.Story p.scheduler id (p.endingsOf id) errors last)
    (ht : p.scheduler.task? id = some t) (hheard : p.Heard id) {e : TaskEvent} (he : e ∈ p.eventsOf id)
    (hends : e.Ends id) : t.status.isFinal = true := by
  cases hfinal : t.status.isFinal with
  | true => rfl
  | false =>
    exact absurd hends (TaskEvent.not_ends_of_mem_rounds ((hstory.eventsOf_ongoing ht hheard hfinal).subset he))

end Task.Story
end CodeAudit
