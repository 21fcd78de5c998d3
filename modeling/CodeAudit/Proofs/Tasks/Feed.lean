import CodeAudit.Proofs.Tasks.Events

/-! What subscribers hear. Of a retry they are told some time after it has been decided, so that the
order in which they hear of different tasks is not that of the events; but of one task they hear the
events in their order, and nothing after the last one. -/
namespace CodeAudit

/-- A pool and its subscribers. Of a retry they are told before its delay begins; of all else they are
told as it happens. -/
structure Feed (ι ω : Type) where
  pool : Pool ι ω
  /-- What subscribers have been told, the latest last. -/
  told : List TaskEvent := []
  /-- Retries of which they have not been told yet. -/
  untold : List TaskEvent := []

namespace Pool

variable {ι ω : Type} {p p' : Pool ι ω}

/-- At most one thing is told at a time, and it is about a task that was running; a retry leaves it
waiting for one. -/
theorem Tells.news (h : Tells p p') (hp : p.Balanced) :
    p'.scheduler.events = p.scheduler.events ∨ ∃ e, p'.scheduler.events = p.scheduler.events ++ [e] ∧
      p.scheduler.status? e.task = some .running ∧
      (e.isRetry = true → p'.scheduler.status? e.task = some .retrying) := by
  cases h with
  | nothing hevents => exact .inl hevents
  | beginning hid _ _ hevents =>
    refine .inr ⟨_, hevents, ?_, fun hretry => by cases hretry⟩
    exact (hp.running.mem_iff _).mp (List.mem_append_left _ hid)
  | ending e hid ht htasks hevents =>
    refine .inr ⟨_, hevents, ?_, fun hretry => ?_⟩
    · rw [Scheduler.notice_task]
      exact (hp.running.mem_iff _).mp (List.mem_append_right _ hid)
    · rw [Scheduler.notice_task, Scheduler.status?_of_set htasks (Scheduler.lt_length_of_task? ht),
        Function.update_self, (Scheduler.notice_isRetry _ _ _ _).mp hretry]

/-- A delay lasts until its task is put back into the queue. -/
theorem resting_step {k : Nat} (hk : k ∈ p.resting.map (·.task)) (a : Action ι ω) :
    k ∈ (p.step a).resting.map (·.task) ∨ ∃ b, a = .requeue b ∧ b.task = k := by
  cases a with
  | register kind => exact .inl hk
  | add kind input options =>
    simp only [step]
    split <;> exact .inl hk
  | updatePriority id q => exact .inl hk
  | start => exact .inl hk
  | stop => exact .inl hk
  | dispatch =>
    simp only [step]
    split <;> exact .inl hk
  | announce id =>
    simp only [step]
    split <;> exact .inl hk
  | finish id e =>
    simp only [step]
    split
    · refine .inl ?_
      rw [List.map_append]
      exact List.mem_append_left _ hk
    · exact .inl hk
  | requeue b =>
    by_cases hb : b.task = k
    · exact .inr ⟨b, rfl, hb⟩
    · refine .inl ?_
      simp only [step]
      split
      · obtain ⟨c, hc, rfl⟩ := List.mem_map.mp hk
        have hne : c ≠ b := fun heq => hb (heq ▸ rfl)
        exact List.mem_map_of_mem ((List.mem_erase_of_ne hne).mpr hc)
      · exact hk

end Pool

namespace Feed

variable {ι ω : Type} {f : Feed ι ω} {id : Nat} {e : TaskEvent} {a : Action ι ω}

/-- An action of the pool, or a retry of which subscribers are told. -/
inductive Move (ι ω : Type) where
  | act (a : Action ι ω)
  | tell (e : TaskEvent)

def initial (config : SchedulerConfig) : Feed ι ω := { pool := .initial config }

/-- A delay that nobody has been told of has not begun. -/
def holds (f : Feed ι ω) : Action ι ω → Bool
  | .requeue b => f.untold.any fun e => e.task = b.task
  | _ => false

def step (f : Feed ι ω) : Move ι ω → Feed ι ω
  | .act a =>
    if f.holds a then f
    else
      let pool := f.pool.step a
      let news := pool.scheduler.events.drop f.pool.scheduler.events.length
      { pool := pool
        told := f.told ++ news.filter fun e => !e.isRetry
        untold := f.untold ++ news.filter fun e => e.isRetry }
  | .tell e =>
    if e ∈ f.untold then { f with told := f.told ++ [e], untold := f.untold.filter fun d => d ≠ e } else f

def run (f : Feed ι ω) (moves : List (Move ι ω)) : Feed ι ω := moves.foldl step f

/-- What subscribers have been told of a task. -/
def toldOf (f : Feed ι ω) (id : Nat) : List TaskEvent := f.told.filter fun e => e.task = id

def untoldOf (f : Feed ι ω) (id : Nat) : List TaskEvent := f.untold.filter fun e => e.task = id

/-- What subscribers do not know yet is at most one retry of a task, whose delay has not run out. -/
structure Keeps (f : Feed ι ω) : Prop where
  balanced : f.pool.Balanced
  events : ∀ id, f.toldOf id ++ f.untoldOf id = f.pool.eventsOf id
  resting : ∀ e ∈ f.untold, e.task ∈ f.pool.resting.map (·.task)
  single : (f.untold.map (·.task)).Nodup

theorem Keeps.initial (config : SchedulerConfig) : (initial config : Feed ι ω).Keeps :=
  ⟨.initial config, fun _ => rfl, by simp [Feed.initial], List.nodup_nil⟩

/-- Of a task that waits for no retry, subscribers know everything. -/
theorem Keeps.untold_notMem (h : f.Keeps) (hstatus : f.pool.scheduler.status? id ≠ some .retrying) :
    id ∉ f.untold.map (·.task) := by
  intro hid
  obtain ⟨e, he, rfl⟩ := List.mem_map.mp hid
  exact hstatus ((h.balanced.retrying.mem_iff _).mp (h.resting e he))

theorem untoldOf_eq_nil (hid : id ∉ f.untold.map (·.task)) : f.untoldOf id = [] := by
  rw [untoldOf, List.filter_eq_nil_iff]
  intro d hd
  simpa using ne_of_notMem_map hd hid

theorem Keeps.toldOf_of_isFinal {t : Task ι ω} (h : f.Keeps) (ht : f.pool.scheduler.task? id = some t)
    (hfinal : t.status.isFinal = true) : f.toldOf id = f.pool.eventsOf id := by
  have hstatus : f.pool.scheduler.status? id ≠ some .retrying := by
    intro hretrying
    obtain ⟨u, hu, hother⟩ := Scheduler.status?_eq_some_iff.mp hretrying
    obtain rfl : t = u := Option.some.inj (ht.symm.trans hu)
    rw [hother] at hfinal
    cases hfinal
  rw [← h.events id, untoldOf_eq_nil (h.untold_notMem hstatus), List.append_nil]

theorem step_act_quiet (hfree : f.holds a = false)
    (hevents : (f.pool.step a).scheduler.events = f.pool.scheduler.events) :
    f.step (.act a) = { f with pool := f.pool.step a } := by
  simp [step, hfree, hevents]

theorem step_act_news (hfree : f.holds a = false)
    (hevents : (f.pool.step a).scheduler.events = f.pool.scheduler.events ++ [e]) :
    f.step (.act a) =
      { pool := f.pool.step a
        told := f.told ++ if e.isRetry then [] else [e]
        untold := f.untold ++ if e.isRetry then [e] else [] } := by
  cases hretry : e.isRetry <;> simp [step, hfree, hevents, hretry]

/-- Whatever the pool does, subscribers are told of it at once or of a retry later. -/
theorem Keeps.act (h : f.Keeps) (a : Action ι ω) : (f.step (.act a)).Keeps := by
  cases hfree : f.holds a with
  | true => simpa [step, hfree] using h
  | false =>
  have hbalanced := Pool.balanced_step f.pool a h.balanced
  have hresting : ∀ d ∈ f.untold, d.task ∈ (f.pool.step a).resting.map (·.task) := by
    intro d hd
    obtain hrest | ⟨b, rfl, hb⟩ := Pool.resting_step (h.resting d hd) a
    · exact hrest
    · have hheld : f.holds (.requeue b) = true := List.any_eq_true.mpr ⟨d, hd, by simp [hb]⟩
      rw [hfree] at hheld
      cases hheld
  obtain hquiet | ⟨e, hevents, hrunning, hretry⟩ := (Pool.step_tells h.balanced a).news h.balanced
  · rw [step_act_quiet hfree hquiet]
    exact ⟨hbalanced, fun id => (h.events id).trans (Pool.eventsOf_congr hquiet id).symm, hresting, h.single⟩
  · -- the task was running, so that nothing was kept from subscribers
    have hknown : e.task ∉ f.untold.map (·.task) := h.untold_notMem (by simp [hrunning])
    rw [step_act_news hfree hevents]
    refine ⟨hbalanced, ?_, ?_, ?_⟩
    · intro id
      rw [Pool.eventsOf_concat hevents, ← h.events id]
      by_cases hid : e.task = id
      · subst hid
        have hnone := untoldOf_eq_nil hknown
        simp only [toldOf, untoldOf] at hnone ⊢
        cases e.isRetry <;> simp [hnone]
      · cases e.isRetry <;> simp [toldOf, untoldOf, hid]
    · intro d hd
      rcases List.mem_append.mp hd with hd | hd
      · exact hresting d hd
      · split at hd
        case isTrue his =>
          rw [List.mem_singleton.mp hd]
          exact (hbalanced.retrying.mem_iff _).mpr (hretry his)
        case isFalse => cases hd
    · cases e.isRetry with
      | false => simpa using h.single
      | true =>
        simp only [if_true, List.map_append, List.map_singleton]
        rw [← List.concat_eq_append, List.nodup_concat]
        exact ⟨hknown, h.single⟩

/-- Nothing else is untold of a task than the retry of which subscribers are told next. -/
theorem Keeps.untoldOf_eq (h : f.Keeps) (he : e ∈ f.untold) : f.untoldOf e.task = [e] := by
  have hall : ∀ d ∈ f.untoldOf e.task, d = e := by
    intro d hd
    obtain ⟨hd, htask⟩ := List.mem_filter.mp hd
    exact List.inj_on_of_nodup_map h.single hd he (by simpa using htask)
  have hnodup : (f.untoldOf e.task).Nodup := (List.Nodup.of_map _ h.single).filter _
  have hmem : e ∈ f.untoldOf e.task := List.mem_filter.mpr ⟨he, by simp⟩
  have hreplicate := List.eq_replicate_of_mem hall
  have hle : (f.untoldOf e.task).length ≤ 1 := by
    rw [hreplicate] at hnodup
    exact List.nodup_replicate.mp hnodup
  have hpos := List.length_pos_of_mem hmem
  rw [hreplicate, show (f.untoldOf e.task).length = 1 by omega]
  rfl

/-- Subscribers are told of the one retry of a task that they did not know of. -/
theorem Keeps.tell (h : f.Keeps) (e : TaskEvent) : (f.step (.tell e)).Keeps := by
  simp only [step]
  split
  case isFalse => exact h
  case isTrue he =>
    refine ⟨h.balanced, ?_, fun d hd => h.resting d (List.mem_filter.mp hd).1, ?_⟩
    · intro id
      rw [← h.events id]
      simp only [toldOf, untoldOf, List.filter_append, List.append_assoc, List.append_cancel_left_eq]
      rw [List.filter_comm]
      change _ ++ (f.untoldOf id).filter _ = f.untoldOf id
      by_cases hid : e.task = id
      · subst hid
        rw [h.untoldOf_eq he]
        simp
      · have hkept : (f.untoldOf id).filter (fun d => d ≠ e) = f.untoldOf id := by
          rw [List.filter_eq_self]
          intro d hd
          have htask : d.task = id := by simpa using (List.mem_filter.mp hd).2
          have hne : d ≠ e := fun heq => hid (heq ▸ htask)
          simpa using hne
        rw [hkept]
        simp [hid]
    · exact h.single.sublist (List.filter_sublist.map _)

theorem Keeps.step (h : f.Keeps) (m : Move ι ω) : (f.step m).Keeps := by
  cases m with
  | act a => exact h.act a
  | tell e => exact h.tell e

theorem Keeps.run (h : f.Keeps) (moves : List (Move ι ω)) : (f.run moves).Keeps := by
  induction moves generalizing f with
  | nil => exact h
  | cons m rest ih => exact ih (h.step m)

/-- Subscribers do not change what the pool does. -/
theorem exists_pool_run (f : Feed ι ω) (moves : List (Move ι ω)) :
    ∃ actions, (f.run moves).pool = f.pool.run actions := by
  induction moves generalizing f with
  | nil => exact ⟨[], rfl⟩
  | cons m rest ih =>
    obtain ⟨actions, hactions⟩ := ih (f.step m)
    have hstep : (f.step m).pool = f.pool ∨ ∃ a, (f.step m).pool = f.pool.step a := by
      cases m with
      | act a =>
        simp only [step]
        split
        · exact .inl rfl
        · exact .inr ⟨a, rfl⟩
      | tell e =>
        simp only [step]
        split <;> exact .inl rfl
    rcases hstep with hstep | ⟨a, hstep⟩
    · exact ⟨actions, by rw [← hstep]; exact hactions⟩
    · exact ⟨a :: actions, by rw [Pool.run, List.foldl_cons, ← hstep]; exact hactions⟩

/-- What subscribers have been told of a task is the beginning of all its events. -/
theorem Keeps.toldOf_follow (h : f.Keeps) (id : Nat) : f.toldOf id <+: f.pool.eventsOf id :=
  ⟨f.untoldOf id, h.events id⟩

/-- Of a task that has come to its end, subscribers know everything and hear nothing any more. -/
theorem toldOf_run_of_isFinal {config : SchedulerConfig} {actions : List (Action ι ω)} {t : Task ι ω}
    (h : f.Keeps) (hpool : f.pool = (Pool.initial config).run actions)
    (ht : f.pool.scheduler.task? id = some t) (hfinal : t.status.isFinal = true) (later : List (Move ι ω)) :
    (f.run later).toldOf id = f.toldOf id := by
  obtain ⟨more, hmore⟩ := f.exists_pool_run later
  have hrun : (f.run later).pool = (Pool.initial config).run (actions ++ more) := by
    rw [hmore, hpool, Pool.run, Pool.run, Pool.run, List.foldl_append]
  have hlater := h.run later
  obtain ⟨ht', hendings⟩ := Pool.task?_run_of_isFinal h.balanced ht hfinal more
  rw [← hmore] at ht' hendings
  have hheard : f.pool.Heard id := hpool ▸ Pool.heard_run config actions id
  have hheard' : (f.run later).pool.Heard id := hrun ▸ Pool.heard_run config (actions ++ more) id
  have hconfig : (f.run later).pool.scheduler.config = f.pool.scheduler.config := by
    rw [hrun, hpool, Pool.config_run, Pool.config_run]
  rw [hlater.toldOf_of_isFinal ht' hfinal, h.toldOf_of_isFinal ht hfinal,
    hheard'.eq_tale hlater.balanced ht' hfinal, hheard.eq_tale h.balanced ht hfinal, hendings,
    Scheduler.tale_congr hconfig ⟨rfl, rfl, rfl⟩]

end Feed

/-- What subscribers hear of a task follows one course: attempts numbered from one, each failed one with
its error and the delay after it, and the end of the last one, which is at most one more than there are
retries. After that they hear nothing. An attempt counter of 32 bits counts exactly this as long as there are fewer than
`2 ^ 32 - 1` retries, by the bound on attempts. -/
theorem told_events_follow_course {ι ω : Type} (config : SchedulerConfig) (moves : List (Feed.Move ι ω))
    {id : Nat} {t : Task ι ω} (ht : ((Feed.initial config).run moves).pool.scheduler.task? id = some t) :
    let f := (Feed.initial config).run moves
    ∃ errors last, errors.length ≤ t.maxRetries ∧ TaskEvent.Ends id last ∧
      List.Forall₂ (fun e error => Ending.outcome t.timeoutMs e = .failed error)
        ((f.pool.endingsOf id).take errors.length) errors ∧
      f.toldOf id <+: TaskEvent.course config.baseDelayMs id t.kind errors last ∧
      (t.status.isFinal = true → f.toldOf id = TaskEvent.course config.baseDelayMs id t.kind errors last ∧
        (last = .completed id ↔ t.status = .completed)) ∧
      ∀ e ∈ f.toldOf id, e.Ends id →
        t.status.isFinal = true ∧ ∀ later, (f.run later).toldOf id = f.toldOf id := by
  intro f
  obtain ⟨actions, hpool⟩ := Feed.exists_pool_run (Feed.initial config) moves
  have hkeeps : f.Keeps := (Feed.Keeps.initial config).run moves
  have hheard : f.pool.Heard id := hpool ▸ Pool.heard_run config actions id
  have hconfig : f.pool.scheduler.config = config := hpool ▸ Pool.config_run config actions
  have haccount : t.Accounts (f.pool.endingsOf id) := by
    have hfits : Pool.Fits (f.pool.endingsOf id) (f.pool.scheduler.task? id) :=
      hpool ▸ Pool.fits_run config actions id
    rw [ht] at hfits
    exact hfits
  obtain ⟨errors, last, hstory⟩ := haccount.story f.pool.scheduler id
  refine ⟨errors, last, hstory.within, hstory.ends, hstory.failed, ?_, ?_, ?_⟩
  · rw [← hconfig]
    exact (hkeeps.toldOf_follow id).trans (hstory.eventsOf_follow hkeeps.balanced ht hheard)
  · intro hfinal
    refine ⟨?_, (hstory.ended hfinal).1⟩
    rw [← hconfig, hkeeps.toldOf_of_isFinal ht hfinal]
    exact hstory.eventsOf_ended hkeeps.balanced ht hheard hfinal
  · intro e he hends
    have hfinal := hstory.isFinal_of_ends ht hheard ((hkeeps.toldOf_follow id).subset he) hends
    exact ⟨hfinal, Feed.toldOf_run_of_isFinal hkeeps hpool ht hfinal⟩

/-- A task that times out once and then gives an output. Its delay cannot run out before subscribers are
told of it, and in the meantime another task begins. -/
def secondAttemptMoves : List (Feed.Move Unit Nat) :=
  [.act (.register "sum"), .act (.add "sum" () { maxRetries := some 1 }), .act .start, .act .dispatch,
   .act (.announce 0), .act (.add "sum" () {}), .act (.finish 0 .timedOut), .act (.requeue ⟨0, 1000, .high⟩),
   .act .dispatch, .act (.announce 1), .tell (.retrying 0 1 1000 "Task timed out after 30000 ms"),
   .act (.requeue ⟨0, 1000, .high⟩), .act .dispatch, .act (.announce 0),
   .act (.finish 0 (.answered (.output 7)))]

/-- Subscribers hear of the other task before they hear of the retry, and of the first one in its order;
that it is completed is the last they hear. -/
theorem second_attempt_told :
    let f := (Feed.initial {}).run secondAttemptMoves
    f.pool.scheduler.task? 0 = some secondAttemptTask ∧
      f.told = [.started 0 "sum" 1, .started 1 "sum" 1, .retrying 0 1 1000 "Task timed out after 30000 ms",
        .started 0 "sum" 2, .completed 0] ∧
      (∃ errors last, f.toldOf 0 = TaskEvent.course 1000 0 "sum" errors last) ∧
      ∀ later, (f.run later).toldOf 0 = f.toldOf 0 := by
  intro f
  have ht : f.pool.scheduler.task? 0 = some secondAttemptTask := rfl
  have htold : TaskEvent.completed 0 ∈ f.toldOf 0 := by decide
  obtain ⟨errors, last, -, -, -, -, hcourse, hends⟩ := told_events_follow_course {} secondAttemptMoves ht
  exact ⟨ht, rfl, ⟨errors, last, (hcourse rfl).1⟩, (hends _ htold (.inl rfl)).2⟩

end CodeAudit
