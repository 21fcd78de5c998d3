import CodeAudit.Proofs.Tasks.Phases

/-! What a turn costs. The turns that are left in a simulation go down with every turn and every jump
of the clock, whatever the turn does, and as long as the scheduler runs a dispatcher is ready or
waits with nothing to do. -/
namespace CodeAudit

namespace Scheduler

variable {ι ω : Type} {s : Scheduler ι ω} {id : Nat} {t t' : Task ι ω}

/-- The turns for all attempts that the tasks have left. -/
def spareTurns (s : Scheduler ι ω) : Nat := total (s.tasks.map fun t => 17 * (t.maxRetries + 1 - t.attempts))

theorem spareTurns_set (ht : s.task? id = some t) (hretries : t'.maxRetries = t.maxRetries)
    (hattempts : t'.attempts = t.attempts) : ({ s with tasks := s.tasks.set id t' } : Scheduler ι ω).spareTurns =
      s.spareTurns := by
  have h := total_map_set (fun t => 17 * (t.maxRetries + 1 - t.attempts)) ht t'
  simp only [hretries, hattempts] at h
  exact Nat.add_right_cancel h

theorem attempts_settled (s : Scheduler ι ω) (t : Task ι ω) (o : Outcome ω) : (s.settled t o).attempts = t.attempts := by
  cases o with
  | completed v | rejected error => rfl
  | failed error => simp only [settled]; split <;> rfl

theorem finish_frame (s : Scheduler ι ω) (id : Nat) (o : Outcome ω) :
    (s.finish id o).2.isRunning = s.isRunning ∧ (s.finish id o).2.spareTurns = s.spareTurns := by
  cases ht : s.task? id with
  | none =>
    have ht' : s.tasks[id]? = none := ht
    simp [finish, task?, ht', spareTurns]
  | some t =>
    rw [finish_eq ht]
    exact ⟨rfl, spareTurns_set ht (s.kin_settled t o).maxRetries (s.attempts_settled t o)⟩

theorem requeue_frame (s : Scheduler ι ω) (b : Backoff) :
    (s.requeue b).isRunning = s.isRunning ∧ (s.requeue b).spareTurns = s.spareTurns := by
  cases ht : s.task? b.task with
  | none =>
    have ht' : s.tasks[b.task]? = none := ht
    simp [requeue, task?, ht', spareTurns, enqueue]
  | some t =>
    rw [requeue_eq ht]
    exact ⟨rfl, spareTurns_set ht rfl rfl⟩

/-- A launched task has one attempt less left. -/
theorem spareTurns_launch (ht : s.task? id = some t) (hleft : t.attempts ≤ t.maxRetries) :
    (s.launch id t).spareTurns + 17 = s.spareTurns := by
  have h := total_map_set (fun t => 17 * (t.maxRetries + 1 - t.attempts)) ht
    { t with status := .running, attempts := t.attempts + 1 }
  simp only [spareTurns, launch, setTask] at h ⊢
  omega

theorem announce_eq (s : Scheduler ι ω) (id : Nat) : ∃ events, s.announce id = { s with events := events } := by
  unfold announce
  split
  · exact ⟨s.events, rfl⟩
  · exact ⟨_, rfl⟩

end Scheduler

namespace Simulation

variable {ι ω : Type} {s : Simulation ι ω} {a : Activity ι ω} {e : Execution ι ω}

theorem turnsLeft_push (s : Simulation ι ω) (a : Activity ι ω) : (s.push a).turnsLeft = s.turnsLeft + a.turns := by
  simp only [turnsLeft, push, List.map_append, List.map_singleton, total_append, total_cons, total_nil]
  omega

theorem turnsLeft_setTimer (s : Simulation ι ω) (delayMs : Nat) (a : Activity ι ω) :
    (s.setTimer delayMs a).turnsLeft = s.turnsLeft + a.turns + 1 := by
  simp only [turnsLeft, setTimer, List.map_append, List.map_singleton, total_append, total_cons, total_nil]
  omega

theorem turnsLeft_cancel_le (s : Simulation ι ω) (serial : Nat) : (s.cancel serial).turnsLeft ≤ s.turnsLeft := by
  have hready := total_filter_le (fun a : Activity ι ω => a.turns) (fun a => decide (a.serial? ≠ some serial)) s.ready
  have htimers := total_filter_le (fun t => t.activity.turns + 1)
    (fun t => decide (t.activity.serial? ≠ some serial)) s.timers
  simp only [turnsLeft, cancel]
  omega

theorem turnsLeft_wake_le (s : Simulation ι ω) : s.wake.turnsLeft ≤ s.turnsLeft + 1 := by
  unfold wake
  split
  · rw [turnsLeft_push]
    rfl
  · exact Nat.le_add_right _ _

theorem turnsLeft_of_scheduler {scheduler : Scheduler ι ω} (h : scheduler.spareTurns = s.scheduler.spareTurns) :
    ({ s with scheduler := scheduler } : Simulation ι ω).turnsLeft = s.turnsLeft := by
  simp only [Scheduler.spareTurns] at h
  simp only [turnsLeft, h]

theorem turnsLeft_settleTurn_le (s : Simulation ι ω) (e : Execution ι ω) (o : Outcome ω) :
    (s.settleTurn e o).turnsLeft ≤ s.turnsLeft + 5 := by
  have hfinish := (s.scheduler.finish_frame e.task o).2
  rcases hf : s.scheduler.finish e.task o with ⟨pause?, scheduler⟩
  rw [hf] at hfinish
  have hcancel := s.turnsLeft_cancel_le e.serial
  have hscheduler : ({ s.cancel e.serial with scheduler := scheduler } : Simulation ι ω).turnsLeft =
      (s.cancel e.serial).turnsLeft := turnsLeft_of_scheduler hfinish
  rw [settleTurn_eq hf]
  refine (turnsLeft_wake_le _).trans ?_
  cases pause? with
  | none =>
    rw [Option.elim, hscheduler]
    omega
  | some b =>
    rw [Option.elim, turnsLeft_push, hscheduler, Activity.turns]
    omega

theorem turnsLeft_requeueTurn_le (s : Simulation ι ω) (b : Backoff) :
    (s.requeueTurn b).turnsLeft ≤ s.turnsLeft + 1 := by
  have hscheduler := turnsLeft_of_scheduler (s := s) (s.scheduler.requeue_frame b).2
  rw [requeueTurn, ← hscheduler]
  exact turnsLeft_wake_le _

theorem turnsLeft_answerTurn_le (s : Simulation ι ω) (e : Execution ι ω) (reply : Reply ω) :
    (s.answerTurn e reply).turnsLeft ≤ s.turnsLeft + 6 := by
  rw [answerTurn, turnsLeft_push]
  exact Nat.add_le_add_right (s.turnsLeft_cancel_le e.serial) 6

/-- Every activity but that of a dispatcher is followed by fewer turns than are counted for it. -/
theorem turnsLeft_turn_lt (s : Simulation ι ω) (ha : a ≠ .dispatch) : (s.turn a).turnsLeft < s.turnsLeft + a.turns := by
  cases a with
  | dispatch => exact absurd rfl ha
  | begin e =>
    obtain ⟨events, hannounce⟩ := s.scheduler.announce_eq e.task
    have hbegun : ({ s with scheduler := s.scheduler.announce e.task } : Simulation ι ω).turnsLeft = s.turnsLeft := by
      rw [hannounce]
      rfl
    rw [turn, beginTurn, ← hbegun]
    generalize ({ s with scheduler := s.scheduler.announce e.task } : Simulation ι ω) = s
    simp only [Activity.turns]
    split
    · exact (turnsLeft_settleTurn_le _ _ _).trans_lt (by omega)
    · split
      · exact (turnsLeft_settleTurn_le _ _ _).trans_lt (by omega)
      · rw [turnsLeft_setTimer, turnsLeft_push]
        simp only [Activity.turns]
        omega
  | call e =>
    simp only [turn, callTurn]
    split
    · refine (turnsLeft_answerTurn_le _ _ _).trans_lt ?_
      show s.turnsLeft + 6 < s.turnsLeft + 9
      omega
    · rw [turnsLeft_setTimer]
      show s.turnsLeft + 7 + 1 < s.turnsLeft + 9
      omega
  | answer e reply =>
    have hanswer := s.turnsLeft_answerTurn_le e reply
    simp only [turn, Activity.turns]
    omega
  | settle e o =>
    have hsettle := s.turnsLeft_settleTurn_le e o
    simp only [turn, Activity.turns]
    omega
  | rest b =>
    have hrequeue := s.turnsLeft_requeueTurn_le b
    rw [turn, restTurn]
    split
    · simp only [Activity.turns]
      omega
    · rw [turnsLeft_setTimer]
      simp only [Activity.turns]
      omega
  | requeue b =>
    have hrequeue := s.turnsLeft_requeueTurn_le b
    simp only [turn, Activity.turns]
    omega

/-- What is due and what stays set make up all timers; each that is due takes one turn less. -/
theorem total_due (ms : Nat) (timers : List (Timer ι ω)) :
    total ((timers.filter fun t => t.atMs ≤ ms).map fun t => t.activity.turns) +
        total ((timers.filter fun t => ms < t.atMs).map fun t => t.activity.turns + 1) +
        timers.countP (fun t => t.atMs ≤ ms) =
      total (timers.map fun t => t.activity.turns + 1) := by
  induction timers with
  | nil => rfl
  | cons t rest ih =>
    by_cases hdue : t.atMs ≤ ms
    · rw [List.filter_cons_of_pos (by simpa using hdue), List.filter_cons_of_neg (by simpa using hdue),
        List.countP_cons_of_pos (by simpa using hdue)]
      simp only [List.map_cons, total_cons]
      omega
    · rw [List.filter_cons_of_neg (by simpa using hdue), List.filter_cons_of_pos (by simpa using hdue),
        List.countP_cons_of_neg (by simpa using hdue)]
      simp only [List.map_cons, total_cons]
      omega

/-- A jump to the next timer makes at least one activity ready. -/
theorem turnsLeft_jump_lt {ms : Nat} (h : s.nextMs? = some ms) : (s.jump ms).turnsLeft < s.turnsLeft := by
  have hdue : 0 < s.timers.countP fun t => t.atMs ≤ ms := by
    obtain ⟨t, ht, hms⟩ := List.mem_map.mp (List.min?_mem h)
    exact List.countP_pos_iff.mpr ⟨t, ht, by simp [hms]⟩
  have htimers := total_due ms s.timers
  simp only [turnsLeft, jump, List.map_append, total_append, List.map_map, Function.comp_def]
  omega

/-- A dispatcher is ready, or one waits and there is nothing for it to do. -/
structure Attended (s : Simulation ι ω) : Prop where
  isRunning : s.scheduler.isRunning = true
  dispatcher : .dispatch ∈ s.ready ∨
    0 < s.idle ∧ (s.scheduler.queue = [] ∨ s.scheduler.concurrency ≤ s.scheduler.inFlight)

theorem dispatch_mem_wake (h : .dispatch ∈ s.ready ∨ 0 < s.idle) : .dispatch ∈ s.wake.ready := by
  unfold wake
  split
  · exact List.mem_append_right _ (List.mem_singleton_self _)
  · rcases h with h | h
    · exact h
    · contradiction

theorem scheduler_wake (s : Simulation ι ω) : s.wake.scheduler = s.scheduler := by
  unfold wake
  split <;> rfl

namespace Attended

/-- Whoever changes the scheduler wakes a dispatcher. -/
theorem wake (h : s.Attended) {scheduler : Scheduler ι ω} (hrunning : scheduler.isRunning = s.scheduler.isRunning)
    {s' : Simulation ι ω} (hscheduler : s'.scheduler = scheduler) (hidle : s'.idle = s.idle)
    (hready : .dispatch ∈ s.ready → .dispatch ∈ s'.ready) : s'.wake.Attended := by
  refine ⟨?_, .inl (dispatch_mem_wake ?_)⟩
  · rw [scheduler_wake, hscheduler, hrunning, h.isRunning]
  · rw [hidle]
    exact h.dispatcher.imp hready And.left

theorem push (h : s.Attended) (a : Activity ι ω) : (s.push a).Attended :=
  ⟨h.isRunning, h.dispatcher.imp_left (List.mem_append_left _)⟩

theorem cancel (h : s.Attended) (serial : Nat) : (s.cancel serial).Attended := by
  refine ⟨h.isRunning, h.dispatcher.imp_left fun hmem => List.mem_filter.mpr ⟨hmem, ?_⟩⟩
  simp [Activity.serial?]

theorem settleTurn (h : s.Attended) (e : Execution ι ω) (o : Outcome ω) : (s.settleTurn e o).Attended := by
  have hrunning := (s.scheduler.finish_frame e.task o).1
  rcases hf : s.scheduler.finish e.task o with ⟨pause?, scheduler⟩
  rw [hf] at hrunning
  rw [settleTurn_eq hf]
  cases pause? with
  | none => exact (h.cancel e.serial).wake hrunning rfl rfl fun hmem => hmem
  | some b => exact (h.cancel e.serial).wake hrunning rfl rfl fun hmem => List.mem_append_left _ hmem

theorem requeueTurn (h : s.Attended) (b : Backoff) : (s.requeueTurn b).Attended :=
  h.wake (s.scheduler.requeue_frame b).1 rfl rfl fun hmem => hmem

/-- Every activity but that of a dispatcher leaves the queue and the slots alone or wakes one. -/
theorem turn (h : s.Attended) (ha : a ≠ .dispatch) : (s.turn a).Attended := by
  cases a with
  | dispatch => exact absurd rfl ha
  | begin e =>
    obtain ⟨events, hannounce⟩ := s.scheduler.announce_eq e.task
    have hbegun : ({ s with scheduler := s.scheduler.announce e.task } : Simulation ι ω).Attended := by
      rw [hannounce]
      exact ⟨h.isRunning, h.dispatcher⟩
    rw [Simulation.turn, beginTurn]
    split
    · exact hbegun.settleTurn _ _
    · simp only
      split
      · exact hbegun.settleTurn _ _
      · exact ⟨hbegun.isRunning, (hbegun.push _).dispatcher⟩
  | call e =>
    simp only [Simulation.turn, callTurn]
    have hcalled : ∀ calls, ({ s with calls := calls } : Simulation ι ω).Attended :=
      fun calls => ⟨h.isRunning, h.dispatcher⟩
    split
    · exact ((hcalled _).cancel _).push _
    · exact ⟨h.isRunning, h.dispatcher⟩
  | answer e reply => exact (h.cancel _).push _
  | settle e o => exact h.settleTurn e o
  | rest b =>
    rw [Simulation.turn, restTurn]
    split
    · exact h.requeueTurn b
    · exact ⟨h.isRunning, h.dispatcher⟩
  | requeue b => exact h.requeueTurn b

end Attended

end Simulation

end CodeAudit
