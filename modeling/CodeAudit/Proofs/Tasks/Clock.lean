import CodeAudit.Proofs.Tasks.Countdown
import CodeAudit.Proofs.Tasks.Turns

/-! The end of a simulation. Every turn and every jump of the clock goes on with the work and leaves
fewer turns, and what is neither ready nor set for later is done; so the scheduler settles, and then
every job has come to its end. -/
namespace CodeAudit

namespace Bench

variable {ι ω : Type} {w : Bench ι ω} {s : Simulation ι ω} {p : Pool ι ω} {owners : List Nat}

/-- The simulation does the work of the bench, with a dispatcher at hand. -/
def Works (w : Bench ι ω) (s : Simulation ι ω) : Prop := s.Attended ∧ ∃ p owners, w.Tracks none s p owners

namespace Tracks

/-- Dispatching goes on until no task or no slot is left, and counts no turn that was not counted. -/
theorem dispatchAll (h : w.Tracks none s p owners) {slots : Nat} (hslots : s.scheduler.queue.length ≤ slots) :
    let s' := Simulation.dispatchAll slots s
    (∃ p' owners', w.Tracks none s' p' owners') ∧ s'.turnsLeft = s.turnsLeft ∧
      s'.scheduler.isRunning = s.scheduler.isRunning ∧
      (s'.scheduler.queue = [] ∨ s'.scheduler.concurrency ≤ s'.scheduler.inFlight) := by
  induction slots generalizing s p owners with
  | zero => exact ⟨⟨p, owners, h⟩, rfl, rfl, .inl (List.eq_nil_of_length_eq_zero (Nat.le_zero.mp hslots))⟩
  | succ slots ih =>
    obtain ⟨hnone, hdone⟩ | ⟨entry, t, scheduler, e, p', hmem, ht, hleft, hlaunch, hdispatch, hexecution, hnext⟩ :=
      h.dispatch_cases
    · have hsame : Simulation.dispatchAll (slots + 1) s = s := by simp only [Simulation.dispatchAll, hnone]
      rw [hsame]
      exact ⟨⟨p, owners, h⟩, rfl, rfl, hdone⟩
    · simp only [Simulation.dispatchAll, hdispatch, hexecution]
      have hlength : scheduler.queue.length = s.scheduler.queue.length - 1 := by
        rw [hlaunch]
        exact List.length_erase_of_mem hmem
      have hqueue : scheduler.queue.length ≤ slots := by omega
      obtain ⟨htracks, hturns, hrunning, hdone⟩ := ih hnext hqueue
      refine ⟨htracks, hturns.trans ?_, hrunning.trans ?_, hdone⟩
      · have hspare := Scheduler.spareTurns_launch
          (s := { s.scheduler with queue := s.scheduler.queue.erase entry }) ht hleft
        rw [← hlaunch] at hspare
        rw [Simulation.turnsLeft_push]
        simp only [Simulation.turnsLeft, Scheduler.spareTurns, Activity.turns] at hspare ⊢
        omega
      · rw [hlaunch]
        rfl

/-- A dispatcher's turn. -/
theorem dispatchTurn (h : w.Tracks none s p owners) (hrunning : s.scheduler.isRunning = true) :
    w.Works s.dispatchTurn ∧ s.dispatchTurn.turnsLeft = s.turnsLeft := by
  obtain ⟨⟨p', owners', htracks⟩, hturns, hstill, hdone⟩ := h.dispatchAll (Nat.le_refl _)
  rw [Simulation.dispatchTurn, hrunning]
  refine ⟨⟨⟨hstill.trans hrunning, .inr ⟨Nat.succ_pos _, hdone⟩⟩, p', owners', ?_⟩, hturns⟩
  exact htracks.transfer rfl rfl rfl rfl (fun _ => .inl) (fun _ _ => rfl) (fun _ _ => rfl) fun _ _ _ _ => rfl

end Tracks

/-- Every turn goes on with the work and uses up turns. -/
theorem Works.turn {a : Activity ι ω} (h : w.Works (s.first a)) :
    w.Works (s.turn a) ∧ (s.turn a).turnsLeft < (s.first a).turnsLeft := by
  obtain ⟨hattended, p, owners, htracks⟩ := h
  have hturns : (s.first a).turnsLeft = s.turnsLeft + a.turns := by
    simp only [Simulation.turnsLeft, Simulation.first, List.map_cons, total_cons]
    omega
  by_cases ha : a = .dispatch
  · subst ha
    obtain ⟨hworks, hleft⟩ := (htracks.serve (by simp [Activity.task?])).dispatchTurn hattended.isRunning
    refine ⟨hworks, ?_⟩
    rw [hturns]
    exact Nat.lt_succ_of_le (Nat.le_of_eq hleft)
  · have hrest : s.Attended :=
      ⟨hattended.isRunning, hattended.dispatcher.imp_left (List.mem_of_ne_of_mem (Ne.symm ha))⟩
    refine ⟨⟨hrest.turn ha, ?_⟩, hturns ▸ Simulation.turnsLeft_turn_lt _ ha⟩
    cases a with
    | dispatch => exact absurd rfl ha
    | begin e =>
      obtain ⟨p', hp'⟩ := htracks.beginTurn
      exact ⟨p', owners, hp'⟩
    | call e => exact ⟨p, owners, htracks.callTurn⟩
    | answer e reply => exact ⟨p, owners, htracks.answerTurn⟩
    | settle e outcome =>
      obtain ⟨p', hp'⟩ := htracks.settleTurn
      exact ⟨p', owners, hp'⟩
    | rest b =>
      obtain ⟨p', hp'⟩ := htracks.restTurn
      exact ⟨p', owners, hp'⟩
    | requeue b =>
      obtain ⟨p', hp'⟩ := htracks.requeueTurn
      exact ⟨p', owners, hp'⟩

section Jump

variable {ms : Nat}

/-- What the clock comes to becomes ready. Of an answer and a time limit that it comes to at once, the
limit counts. -/
theorem Phase.jump {id : Nat} {job : Task ι ω} {next : Ending ω} {nowMs : Nat} {stand : Pool.Stand} {calls : Nat}
    {timers : List (Timer ι ω)} (h : w.Phase nowMs id job next stand calls [] timers)
    (hms : ∀ t ∈ timers, ms ≤ t.atMs) :
    w.Phase ms id job next stand calls ((timers.filter fun t => t.atMs ≤ ms).map (·.activity))
      (timers.filter fun t => ms < t.atMs) := by
  cases h with
  | idle => exact .idle
  | @asleep e reply limitMs replyMs he hnext =>
    have hreply : ms ≤ replyMs := hms ⟨replyMs, .answer e reply⟩ (by simp)
    have hlate : limitMs ≤ ms → next = .timedOut := fun hdue => by
      rw [hnext, if_neg (Nat.not_lt.mpr (hdue.trans hreply))]
    by_cases hlimit : limitMs ≤ ms
    · obtain rfl := hlate hlimit
      by_cases hanswer : replyMs ≤ ms
      · have hsettling : w.Phase ms id job .timedOut .executing 1
            [.settle e (Ending.timedOut.outcome job.timeoutMs), .answer e reply] [] :=
          .settling he (by simp [Activity.serial?])
        simpa [List.filter_cons, hlimit, hanswer, Nat.not_lt.mpr] using hsettling
      · have hsettling : w.Phase ms id job .timedOut .executing 1
            [.settle e (Ending.timedOut.outcome job.timeoutMs)] [⟨replyMs, .answer e reply⟩] :=
          .settling he (by simp [Activity.serial?])
        simpa [List.filter_cons, hlimit, hanswer, Nat.lt_of_not_le, Nat.not_lt.mpr] using hsettling
    · by_cases hanswer : replyMs ≤ ms
      · rw [if_pos (hanswer.trans_lt (Nat.lt_of_not_le hlimit))] at hnext
        have hanswering : w.Phase ms id job next .executing 1 [.answer e reply]
            [⟨limitMs, .settle e (Ending.timedOut.outcome job.timeoutMs)⟩] :=
          .answering he hnext (by simp [Activity.serial?])
        simpa [List.filter_cons, hlimit, hanswer, Nat.lt_of_not_le, Nat.not_lt.mpr] using hanswering
      · have hasleep : w.Phase ms id job next .executing 1 []
            [⟨limitMs, .settle e (Ending.timedOut.outcome job.timeoutMs)⟩, ⟨replyMs, .answer e reply⟩] :=
          .asleep he hnext
        simpa [List.filter_cons, hlimit, hanswer, Nat.lt_of_not_le] using hasleep
  | @waiting b untilMs =>
    by_cases hdue : untilMs ≤ ms
    · simpa [List.filter_cons, hdue, Nat.not_lt.mpr hdue] using Phase.waking
    · simpa [List.filter_cons, hdue, Nat.lt_of_not_le hdue] using Phase.waiting

/-- The clock jumps to the next timer when nothing is ready. -/
theorem Works.jump (h : w.Works s) (hready : s.ready = []) (hnext : s.nextMs? = some ms) : w.Works (s.jump ms) := by
  obtain ⟨⟨hrunning, hdispatcher⟩, p, owners, htracks⟩ := h
  have hidle : 0 < s.idle ∧ (s.scheduler.queue = [] ∨ s.scheduler.concurrency ≤ s.scheduler.inFlight) := by
    simpa [hready] using hdispatcher
  have hearliest : ∀ t ∈ s.timers, ms ≤ t.atMs := by
    intro t ht
    exact (List.min?_eq_some_iff.mp hnext).2 _ (List.mem_map_of_mem ht)
  refine ⟨⟨hrunning, .inr hidle⟩, p, owners, { htracks with owned := ?_, on := ?_ }⟩
  · intro a ha
    simp only [Simulation.agenda, Simulation.jump, hready, List.nil_append, List.mem_append, List.mem_map] at ha
    obtain ⟨t, ht, rfl⟩ | ⟨t, ht, rfl⟩ := ha <;>
      exact htracks.owned _ (List.mem_append_right _ (List.mem_map_of_mem (List.mem_of_mem_filter ht)))
  · intro id job hjob hid
    obtain ⟨stand, calls, hstands, hphase, hcount⟩ := htracks.on id job hjob hid
    refine ⟨stand, calls, hstands, ?_, hcount⟩
    have hnone : s.readyFor id = [] := by rw [Simulation.readyFor, hready, List.filter_nil]
    rw [hnone] at hphase
    have hlater := hphase.jump fun t ht => hearliest t (List.mem_of_mem_filter ht)
    have hdue : (s.jump ms).readyFor id = ((s.timersFor id).filter fun t => t.atMs ≤ ms).map (·.activity) := by
      rw [Simulation.readyFor, Simulation.jump, hready, List.nil_append, List.filter_map, List.filter_comm]
      rfl
    have hset : (s.jump ms).timersFor id = (s.timersFor id).filter fun t => ms < t.atMs := by
      rw [Simulation.timersFor, Simulation.jump, List.filter_comm]
      rfl
    rwa [hdue, hset]

end Jump

/-- Where nothing is ready and nothing set, no job is under way. -/
theorem Phase.stand_eq_idle {nowMs id : Nat} {job : Task ι ω} {next : Ending ω} {stand : Pool.Stand} {calls : Nat}
    (h : w.Phase nowMs id job next stand calls [] []) : stand = .idle := by
  cases h with
  | idle => rfl

/-- Work with nothing ready and nothing set is done. -/
theorem Works.isSettled (h : w.Works s) (hready : s.ready = []) (htimers : s.timers = []) :
    s.scheduler.isSettled = true := by
  obtain ⟨⟨hrunning, hdispatcher⟩, p, owners, htracks⟩ := h
  have hbalanced := htracks.reached.balanced
  have hidle : ∀ id status, s.scheduler.status? id = some status → status ≠ .running ∧ status ≠ .retrying := by
    intro id status hstatus
    obtain ⟨t, ht, -⟩ := Scheduler.status?_eq_some_iff.mp hstatus
    have hlt : id < w.jobs.length := htracks.length ▸ Scheduler.lt_length_of_task? ht
    obtain ⟨stand, calls, hstands, hphase, -⟩ :=
      htracks.on id _ (List.getElem?_eq_getElem hlt) (Option.some_ne_none id)
    rw [Simulation.readyFor, hready, Simulation.timersFor, htimers] at hphase
    obtain rfl := hphase.stand_eq_idle
    rw [Pool.Stands, htracks.same, hstatus] at hstands
    exact ⟨fun heq => hstands.1 (congrArg some heq), fun heq => hstands.2 (congrArg some heq)⟩
  have hwork : p.launched ++ p.executing = [] := by
    refine List.eq_nil_iff_forall_not_mem.mpr fun id hid => ?_
    have hstatus := (hbalanced.running.mem_iff id).mp hid
    rw [htracks.same] at hstatus
    exact (hidle id _ hstatus).1 rfl
  have hresting : p.resting = [] := by
    refine List.eq_nil_iff_forall_not_mem.mpr fun b hb => ?_
    have hstatus := (hbalanced.retrying.mem_iff b.task).mp (List.mem_map_of_mem hb)
    rw [htracks.same] at hstatus
    exact (hidle b.task _ hstatus).2 rfl
  have hinFlight : s.scheduler.inFlight = 0 := by rw [← htracks.same, hbalanced.inFlight_eq, hwork, List.length_nil]
  have hbackingOff : s.scheduler.backingOff = 0 := by
    rw [← htracks.same, hbalanced.backingOff_eq, hresting, List.length_nil]
  have hslot : 0 < s.scheduler.concurrency := Nat.lt_of_lt_of_le Nat.zero_lt_one (Nat.le_max_left 1 _)
  have hqueue : s.scheduler.queue = [] := by
    simp only [hready, List.not_mem_nil, false_or] at hdispatcher
    exact hdispatcher.2.resolve_right (by omega)
  simp [Scheduler.isSettled, hinFlight, hbackingOff, hqueue]

/-- The turns that are left suffice to settle the scheduler. -/
theorem Works.runUntil (h : w.Works s) {fuel : Nat} (hfuel : s.turnsLeft ≤ fuel) :
    let s' := Simulation.runUntil (fun s => s.scheduler.isSettled) none fuel s
    w.Works s' ∧ s'.scheduler.isSettled = true := by
  induction fuel generalizing s with
  | zero =>
    rw [Simulation.turnsLeft] at hfuel
    omega
  | succ fuel ih =>
    cases hready : s.ready with
    | cons a rest =>
      have hs : s = ({ s with ready := rest } : Simulation ι ω).first a := by rw [Simulation.first, ← hready]
      obtain ⟨hworks, hturns⟩ := Works.turn (hs ▸ h)
      rw [← hs] at hturns
      simp only [Simulation.runUntil, hready]
      exact ih hworks (by omega)
    | nil =>
      by_cases hsettled : s.scheduler.isSettled = true
      · have hstop : Simulation.runUntil (fun s => s.scheduler.isSettled) none (fuel + 1) s = s := by
          simp only [Simulation.runUntil, hready, hsettled, if_true]
        rw [hstop]
        exact ⟨h, hsettled⟩
      · cases hnext : s.nextMs? with
        | none =>
          have htimers : s.timers = [] := by simpa [Simulation.nextMs?] using hnext
          exact absurd (h.isSettled hready htimers) hsettled
        | some ms =>
          have hturns := Simulation.turnsLeft_jump_lt hnext
          have hjump : Simulation.runUntil (fun s => s.scheduler.isSettled) none (fuel + 1) s =
              Simulation.runUntil (fun s => s.scheduler.isSettled) none fuel (s.jump ms) := by
            simp only [Simulation.runUntil, hready, hsettled, hnext, if_false, Bool.false_eq_true]
          rw [hjump]
          exact ih (h.jump hready hnext) (by omega)

theorem Works.wait (h : w.Works s) : w.Works s.wait ∧ s.wait.scheduler.isSettled = true := by
  rw [Simulation.wait]
  split
  case isTrue hsettled => exact ⟨h, hsettled⟩
  case isFalse => exact h.runUntil (Nat.le_refl _)

/-- The record of a job that has come to its end with the attempt after `repeated` others, all of which
could be repeated. -/
structure Ends (w : Bench ι ω) (job t : Task ι ω) (repeated : Nat) : Prop where
  left : repeated ≤ job.maxRetries
  attempts : t.attempts = repeated + 1
  before : ∀ i < repeated, (w.ending job (i + 1)).isRetryable = true
  last : (w.ending job (repeated + 1)).isRetryable = true → repeated = job.maxRetries
  status : t.status = .completed ↔ ∃ v, w.ending job (repeated + 1) = .answered (.output v)
  output : ∀ v, w.ending job (repeated + 1) = .answered (.output v) → t.output = some v
  error : t.error = ((w.ending job (repeated + 1)).outcome job.timeoutMs).error?

/-- The record of a job whose executions went by the script. -/
theorem ends_of_accounts {job t : Task ι ω} {es : List (Ending ω)} (hkept : job.Kept t)
    (hscript : es = (List.range es.length).map fun i => w.ending job (i + 1)) (haccounts : t.Accounts es)
    (hreports : t.Reports es) (hfinal : t.status.isFinal = true) : ∃ repeated, w.Ends job t repeated := by
  -- the endings by their numbers: all but the last one could be repeated
  have hsplit : ∀ before e, es = before ++ [e] → (∀ d ∈ before, d.isRetryable = true) →
      w.ending job (before.length + 1) = e ∧ (∀ i < before.length, (w.ending job (i + 1)).isRetryable = true) ∧
        t.error = (e.outcome job.timeoutMs).error? := by
    rintro before e rfl hbefore
    rw [List.length_append, List.length_singleton, List.range_succ, List.map_append, List.map_singleton] at hscript
    obtain ⟨hinit, hlast⟩ := List.append_inj' hscript rfl
    refine ⟨(List.cons.inj hlast).1.symm, fun i hi => hbefore _ ?_, ?_⟩
    · rw [hinit]
      exact List.mem_map_of_mem (List.mem_range.mpr hi)
    · rwa [Task.Reports, List.getLast?_concat, Option.bind_some, hkept.timeoutMs] at hreports
  cases haccounts with
  | waiting hstatus => rcases hstatus with hstatus | hstatus <;> simp [hstatus, TaskStatus.isFinal] at hfinal
  | running hstatus => simp [hstatus, TaskStatus.isFinal] at hfinal
  | @completed es v hstatus hes hleft hattempts houtput _ =>
    obtain ⟨hlast, hbefore, herror⟩ := hsplit es _ rfl hes
    refine ⟨es.length, ⟨hkept.maxRetries ▸ hleft, hattempts, hbefore, ?_, ?_, ?_, hlast ▸ herror⟩⟩
    · rw [hlast]
      simp [Ending.isRetryable]
    · exact ⟨fun _ => ⟨v, hlast⟩, fun _ => hstatus⟩
    · rw [hlast]
      rintro u ⟨⟩
      exact houtput
  | @exhausted es e hstatus hes he hused hattempts =>
    obtain ⟨hlast, hbefore, herror⟩ := hsplit es _ rfl hes
    have hnone : ∀ v, w.ending job (es.length + 1) ≠ .answered (.output v) := by
      rintro v hv
      rw [← hlast, hv] at he
      cases he
    refine ⟨es.length, ⟨hkept.maxRetries ▸ hused.le, hattempts, hbefore, ?_, ?_, ?_, hlast ▸ herror⟩⟩
    · exact fun _ => hused.trans hkept.maxRetries
    · simp [hstatus, hnone]
    · exact fun v hv => absurd hv (hnone v)
  | @refused es reason hstatus hes hleft hattempts =>
    obtain ⟨hlast, hbefore, herror⟩ := hsplit es _ rfl hes
    refine ⟨es.length, ⟨hkept.maxRetries ▸ hleft, hattempts, hbefore, ?_, ?_, ?_, hlast ▸ herror⟩⟩
    · rw [hlast]
      simp [Ending.isRetryable]
    · simp [hstatus, hlast]
    · simp [hlast]

/-- Once the scheduler has settled, every job has come to its end. -/
theorem Works.ends (h : w.Works s) (hsettled : s.scheduler.isSettled = true) {id : Nat} {job : Task ι ω}
    (hjob : w.jobs[id]? = some job) : ∃ t repeated, s.scheduler.task? id = some t ∧ w.Ends job t repeated := by
  obtain ⟨hattended, p, owners, htracks⟩ := h
  obtain ⟨t, ht, hkept⟩ := htracks.kept id job hjob
  have hp : p.scheduler.task? id = some t := by rw [htracks.same, ht]
  have hconsistent := htracks.reached.balanced.consistent
  rw [htracks.same] at hconsistent
  have hfinal := hconsistent.isFinal_of_isSettled hattended.isRunning hsettled t (List.mem_of_getElem? ht)
  obtain ⟨repeated, hends⟩ := ends_of_accounts hkept (htracks.script id job hjob) (htracks.reached.accounts hp)
    (htracks.reached.reports hp) hfinal
  exact ⟨t, repeated, ht, hends⟩

/-- A simulation whose work is submitted and not begun, for a handler of one kind of tasks. -/
structure Unbegun (config : SchedulerConfig) (kind : String) (handler : Handler ι ω) (s : Simulation ι ω)
    (p : Pool ι ω) : Prop where
  same : p.scheduler = s.scheduler
  reached : p.Reached config
  handlers : s.handlers = [(kind, handler)]
  kinds : kind ∈ s.scheduler.kinds
  isStopped : s.scheduler.isStopped = false
  isRunning : s.scheduler.isRunning = false
  idle : s.idle = 0
  work : p.launched ++ p.executing = []
  resting : p.resting = []
  ended : p.ended = []
  agenda : s.agenda = []
  executions : s.executions = 0
  calls : s.calls = []

namespace Unbegun

variable {config : SchedulerConfig} {kind : String} {handler : Handler ι ω}

/-- A scheduler with nothing but a handler. -/
theorem register (config : SchedulerConfig) (kind : String) (handler : Handler ι ω) :
    Unbegun config kind handler (({ scheduler := { config := config } } : Simulation ι ω).register kind handler)
      ((Pool.initial config).step (.register kind)) where
  same := rfl
  reached := ⟨[.register kind], rfl⟩
  handlers := rfl
  kinds := by simp [Simulation.register, Scheduler.register]
  isStopped := rfl
  isRunning := rfl
  idle := rfl
  work := rfl
  resting := rfl
  ended := rfl
  agenda := rfl
  executions := rfl
  calls := rfl

/-- One more task is submitted. -/
theorem add (h : Unbegun config kind handler s p) (input : ι) (options : TaskOptions) :
    ∃ s' p', s.add kind input options = .ok (s.scheduler.tasks.length, s') ∧ Unbegun config kind handler s' p' ∧
      s'.scheduler.tasks = s.scheduler.tasks ++ [s.scheduler.newTask kind input options] ∧
      s'.scheduler.config = s.scheduler.config := by
  have hadd : s.scheduler.add kind input options = _ := Scheduler.add_ok_iff.mpr ⟨h.isStopped, h.kinds, rfl⟩
  have hwake : ∀ scheduler, ({ s with scheduler := scheduler } : Simulation ι ω).wake =
      { s with scheduler := scheduler, isWoken := true } := by
    intro scheduler
    rw [Simulation.wake, if_neg (by simp [h.idle])]
  generalize hscheduler : ({ s.scheduler with tasks := _, queue := _, sequence := _ } : Scheduler ι ω) =
    scheduler at hadd
  have hstep : p.step (.add kind input options) = { p with scheduler := scheduler } := by
    simp only [Pool.step, h.same, hadd]
  refine ⟨{ s with scheduler := scheduler, isWoken := true }, p.step (.add kind input options), ?_, ?_,
    by rw [← hscheduler], by rw [← hscheduler]⟩
  · simp only [Simulation.add, hadd, Except.map, hwake]
  · have hreached := h.reached.step (.add kind input options)
    rw [hstep] at hreached ⊢
    exact {
      same := rfl
      reached := hreached
      handlers := h.handlers
      kinds := by rw [← hscheduler]; exact h.kinds
      isStopped := by rw [← hscheduler]; exact h.isStopped
      isRunning := by rw [← hscheduler]; exact h.isRunning
      idle := h.idle
      work := h.work
      resting := h.resting
      ended := h.ended
      agenda := h.agenda
      executions := h.executions
      calls := h.calls }

/-- Starting the scheduler begins the work. -/
theorem start (h : Unbegun w.config w.kind w.handler s p) (hjobs : s.scheduler.tasks = w.jobs) :
    w.Works s.start := by
  have hready : s.ready = [] := (List.append_eq_nil_iff.mp h.agenda).1
  have htimers : s.timers = [] := List.map_eq_nil_iff.mp (List.append_eq_nil_iff.mp h.agenda).2
  have hstart : s.start = ({ s with scheduler := s.scheduler.start } : Simulation ι ω).push .dispatch := by
    simp only [Simulation.start, h.isRunning, Bool.false_eq_true, if_false]
  have hendings : ∀ id, (p.step .start).endingsOf id = [] := by
    intro id
    rw [Pool.endingsOf, Pool.step, h.ended]
    rfl
  have hidle : ∀ id, (p.step .start).Stands id .idle := by
    intro id
    have hb := h.reached.balanced
    have hrunning := hb.running.mem_iff id
    have hretrying := hb.retrying.mem_iff id
    rw [h.work] at hrunning
    rw [h.resting] at hretrying
    exact ⟨fun hstatus => by simpa using hrunning.mpr hstatus, fun hstatus => by simpa using hretrying.mpr hstatus⟩
  rw [hstart]
  refine ⟨⟨rfl, .inl (List.mem_append_right _ (List.mem_singleton_self _))⟩, p.step .start, [], ?_⟩
  refine Tracks.push ?_ (by simp [Activity.task?]) (by simp [Owns, Activity.task?])
  exact {
    same := by rw [Pool.step, h.same]
    reached := h.reached.step .start
    handlers := h.handlers
    length := congrArg List.length hjobs
    kept := by
      intro id job hjob
      rw [← hjobs] at hjob
      exact ⟨job, hjob, ⟨rfl, rfl, rfl⟩, rfl⟩
    serials := h.executions.symm
    owned := by
      intro a ha
      have hnone : a ∈ s.agenda := ha
      rw [h.agenda] at hnone
      cases hnone
    on := by
      intro id job hjob _
      refine ⟨.idle, 0, hidle id, ?_, fun _ _ => ?_⟩
      · show w.Phase _ _ _ _ _ _ (s.readyFor id) (s.timersFor id)
        rw [Simulation.readyFor, hready, Simulation.timersFor, htimers]
        exact .idle
      · rw [hendings]
        show s.callsFor _ = _
        rw [Simulation.callsFor, h.calls]
        rfl
    script := by
      intro id job hjob
      rw [hendings]
      rfl }

end Unbegun

end Bench

end CodeAudit
