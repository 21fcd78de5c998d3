import CodeAudit.Proofs.Tasks.Phases

/-! The turns of a simulation, one for each activity: each takes its job from one phase to the next. -/
namespace CodeAudit.Bench

variable {ι ω : Type} {w : Bench ι ω} {aside : Option Nat} {s : Simulation ι ω} {p : Pool ι ω} {owners : List Nat}
  {a : Activity ι ω} {k : Nat} {job : Task ι ω} {e : Execution ι ω}

theorem owns_of_task (hjob : w.jobs[k]? = some job) (ha : a.task? = some k)
    (hserial : ∀ serial, a.serial? = some serial → owners[serial]? = some k) : w.Owns owners a := by
  intro id hid
  rw [ha] at hid
  cases hid
  exact ⟨(List.getElem?_eq_some_iff.mp hjob).1, hserial⟩

/-- An execution is under way, and all that is ready or set for its job belongs to it. -/
structure Underway (w : Bench ι ω) (s : Simulation ι ω) (p : Pool ι ω) (owners : List Nat) (k : Nat)
    (job : Task ι ω) (e : Execution ι ω) : Prop where
  executes : w.Executes k job e
  executing : k ∈ p.executing
  owner : owners[e.serial]? = some k
  ready : ∀ a ∈ s.readyFor k, a.serial? = some e.serial
  timers : ∀ t ∈ s.timersFor k, t.activity.serial? = some e.serial

namespace Tracks

/-- An execution ends, whatever is left of it. -/
theorem settle (h : w.Tracks (some k) s p owners) (hjob : w.jobs[k]? = some job)
    (he : w.Underway s p owners k job e) (hcalls : w.Counts s p k job 1) :
    ∃ p', w.Tracks none (s.settleTurn e ((w.next p k job).outcome job.timeoutMs)) p' owners := by
  obtain ⟨t, ht, hkept⟩ := h.kept k job hjob
  rw [← h.same] at ht
  obtain ⟨pause?, hfinish, hresting, hidle, hendings, htouches⟩ :=
    Pool.step_finish he.executing (w.next p k job) ht
  have hended := (h.cancel he.owner).step _ htouches fun other hother => by
    obtain rfl : job = other := Option.some.inj (hjob.symm.trans hother)
    exact .inr hendings
  generalize p.step (.finish k (w.next p k job)) = p' at *
  have hcount : w.Counts s p' k job 0 := by
    rw [Counts, hendings, List.length_append, List.length_singleton]
    exact hcalls
  have hnone := Simulation.readyFor_cancel he.ready
  have hunset := Simulation.timersFor_cancel he.timers
  rw [h.same, ← he.executes.task, hkept.timeoutMs] at hfinish
  refine ⟨p', ?_⟩
  rw [← he.executes.task, Simulation.settleTurn_eq hfinish]
  cases pause? with
  | none =>
    refine hended.wake.close hjob ⟨.idle, 0, hidle rfl, ?_, ?_⟩
    · rw [Simulation.readyFor_wake, Simulation.timersFor_wake]
      show w.Phase _ _ _ _ _ _ ((s.cancel e.serial).readyFor k) ((s.cancel e.serial).timersFor k)
      rw [hnone, hunset]
      exact .idle
    · rw [Counts, Simulation.callsFor_wake]
      exact hcount
  | some b =>
    have hstands := hresting b rfl
    have htask : (Activity.rest b : Activity ι ω).task? = some k := congrArg some hstands.2
    have hrest := hended.push (a := .rest b) (by simp [htask])
      (owns_of_task hjob htask (by simp [Activity.serial?]))
    refine hrest.wake.close hjob ⟨.resting b, 0, hstands, ?_, ?_⟩
    · rw [Simulation.readyFor_wake, Simulation.timersFor_wake, Simulation.readyFor_push htask]
      show w.Phase _ _ _ _ _ _ ((s.cancel e.serial).readyFor k ++ [_]) ((s.cancel e.serial).timersFor k)
      rw [hnone, hunset]
      exact .resting
    · rw [Counts, Simulation.callsFor_wake]
      exact hcount

/-- An answer comes in time: its outcome is ready, and the rest of the execution is dropped. -/
theorem answer (h : w.Tracks (some k) s p owners) (hjob : w.jobs[k]? = some job)
    (he : w.Underway s p owners k job e) (hcalls : w.Counts s p k job 1) {reply : Reply ω}
    (hnext : w.next p k job = .answered reply) : w.Tracks none (s.answerTurn e reply) p owners := by
  rw [Simulation.answerTurn]
  generalize hout : (Activity.settle e ((Ending.answered reply).outcome e.timeoutMs) : Activity ι ω) = a
  have htask : a.task? = some k := by rw [← hout, Activity.task?, he.executes.task]
  have hserial : ∀ serial, a.serial? = some serial → owners[serial]? = some k := by
    intro serial hserial
    rw [← hout, Activity.serial?, Option.some.injEq] at hserial
    rw [← hserial]
    exact he.owner
  refine ((h.cancel he.owner).push (by simp [htask]) (owns_of_task hjob htask hserial)).close hjob
    ⟨.executing, 1, he.executing, ?_, hcalls⟩
  rw [Simulation.readyFor_push htask, Simulation.readyFor_cancel he.ready, List.nil_append]
  show w.Phase _ _ _ _ _ _ [a] ((s.cancel e.serial).timersFor k)
  rw [Simulation.timersFor_cancel he.timers, ← hout, he.executes.timeoutMs, ← hnext]
  exact .settling he.executes (by simp)

/-- The job that an activity is for, when the activity is served. -/
theorem served (h : w.Tracks none (s.first a) p owners) (ha : a.task? = some k) :
    ∃ job stand calls, w.jobs[k]? = some job ∧ p.Stands k stand ∧
      w.Phase s.nowMs k job (w.next p k job) stand calls (a :: s.readyFor k) (s.timersFor k) ∧
      w.Counts s p k job calls ∧ (∀ serial, a.serial? = some serial → owners[serial]? = some k) ∧
      w.Tracks (some k) s p owners := by
  obtain ⟨hlt, howner⟩ := h.owned a List.mem_cons_self k ha
  have hjob : w.jobs[k]? = some (w.jobs.get ⟨k, hlt⟩) := List.getElem?_eq_getElem hlt
  obtain ⟨stand, calls, hstands, hphase, hcount⟩ := h.on k _ hjob (Option.some_ne_none k)
  rw [Simulation.readyFor_first ha] at hphase
  exact ⟨_, stand, calls, hjob, hstands, hphase, hcount, howner, (h.putAside k).serve (by simp [ha])⟩

theorem beginTurn (h : w.Tracks none (s.first (.begin e)) p owners) :
    ∃ p', w.Tracks none (s.beginTurn e) p' owners := by
  obtain ⟨job, stand, calls, hjob, hstands, hphase, hcount, howner, haside⟩ := h.served rfl
  generalize hready : s.readyFor e.task = ready at hphase
  generalize htimers : s.timersFor e.task = timers at hphase
  cases hphase with
  | launched he =>
    obtain ⟨hscheduler, hexecuting, hendings, htouches⟩ := Pool.step_announce h.reached.balanced hstands
    have hbegun := haside.step (.announce e.task) htouches fun _ _ => .inl hendings
    rw [hscheduler, haside.same] at hbegun
    generalize p.step (.announce e.task) = p' at *
    have hunderway : w.Underway { s with scheduler := s.scheduler.announce e.task } p' owners e.task job e := by
      refine ⟨he, hexecuting, howner e.serial rfl, ?_, ?_⟩
      · show ∀ a ∈ s.readyFor e.task, _
        simp [hready]
      · show ∀ t ∈ s.timersFor e.task, _
        simp [htimers]
    rw [Simulation.beginTurn, he.handler, he.input, he.timeoutMs]
    cases hreject : w.handler.reject? job.input with
    | some reason =>
      have hnext : w.next p' e.task job = .refused reason := by simp [next, ending, Handler.ending, hreject]
      have hsettle := hbegun.settle hjob hunderway fun haccepted => by simp [hreject] at haccepted
      rwa [hnext] at hsettle
    | none =>
      by_cases hlimit : job.timeoutMs = 0
      · have hnext : w.next p' e.task job = .timedOut := by simp [next, ending, Handler.ending, hreject, hlimit]
        have hsettle := hbegun.settle hjob hunderway fun _ hne => absurd hlimit hne
        simp only [if_pos hlimit]
        rwa [hnext] at hsettle
      · simp only [if_neg hlimit]
        have hserial : ∀ serial, some e.serial = some serial → owners[serial]? = some e.task := howner
        have hcalled := (hbegun.push (a := .call e) (by simp [Activity.task?])
          (owns_of_task hjob rfl hserial)).setTimer job.timeoutMs
            (a := .settle e (Ending.timedOut.outcome job.timeoutMs)) (by simp [Activity.task?])
            (owns_of_task hjob rfl hserial)
        refine ⟨p', hcalled.close hjob ⟨.executing, 0, hexecuting, ?_, ?_⟩⟩
        · rw [Simulation.timersFor_setTimer _ rfl]
          show w.Phase s.nowMs _ _ _ _ _ (Simulation.readyFor (Simulation.push _ _) _) _
          rw [Simulation.readyFor_push rfl]
          show w.Phase s.nowMs _ _ _ _ _ (s.readyFor e.task ++ [_]) (s.timersFor e.task ++ [_])
          rw [hready, htimers]
          exact .called he hreject hlimit
        · rw [Counts, hendings]
          exact hcount

theorem callTurn (h : w.Tracks none (s.first (.call e)) p owners) : w.Tracks none (s.callTurn e) p owners := by
  obtain ⟨job, stand, calls, hjob, hexecuting, hphase, hcount, howner, haside⟩ := h.served rfl
  generalize hready : s.readyFor e.task = ready at hphase
  generalize htimers : s.timersFor e.task = timers at hphase
  cases hphase with
  | called he haccepted hlimit =>
    have hnumber : s.callsFor (w.handler.key job.input) = (p.endingsOf e.task).length := hcount haccepted hlimit
    have hnext : w.next p e.task job =
        if (w.handler.play job.input ((p.endingsOf e.task).length + 1)).sleepMs < job.timeoutMs then
          .answered (w.handler.play job.input ((p.endingsOf e.task).length + 1)).reply else .timedOut := by
      simp only [next, ending, Handler.ending, haccepted]
    have hcounted : ∀ entry : CallEntry, entry.handler = 0 → entry.key = w.handler.key job.input →
        w.Counts { s with calls := s.calls ++ [entry] } p e.task job 1 := by
      intro entry hhandler hkey _ _
      rw [← hnumber]
      simp [Simulation.callsFor, hhandler, hkey]
    rw [Simulation.callsFor] at hnumber
    simp only [Simulation.callTurn, he.handler, he.input, he.place, hnumber]
    generalize w.handler.play job.input ((p.endingsOf e.task).length + 1) = play at hnext
    generalize hentry : (⟨s.nowMs, 0, w.handler.tag, w.handler.key job.input,
      (p.endingsOf e.task).length + 1⟩ : CallEntry) = entry
    have hkey : entry.key = w.handler.key job.input := by rw [← hentry]
    have hcalls := hcounted entry (by rw [← hentry]) hkey
    have hcalled := haside.call hjob hkey
    by_cases hsleep : play.sleepMs = 0
    · rw [if_pos hsleep]
      rw [hsleep, if_pos (Nat.pos_of_ne_zero hlimit)] at hnext
      refine hcalled.answer hjob ⟨he, hexecuting, howner e.serial rfl, ?_, ?_⟩ hcalls hnext
      · show ∀ a ∈ s.readyFor e.task, _
        simp [hready]
      · show ∀ t ∈ s.timersFor e.task, _
        simp [htimers, Activity.serial?]
    · rw [if_neg hsleep]
      have hserial : ∀ serial, some e.serial = some serial → owners[serial]? = some e.task := howner
      have hasleep := hcalled.setTimer play.sleepMs (a := .answer e play.reply) (by simp [Activity.task?])
        (owns_of_task hjob rfl hserial)
      refine hasleep.close hjob ⟨.executing, 1, hexecuting, ?_, hcalls⟩
      rw [Simulation.timersFor_setTimer _ rfl]
      show w.Phase s.nowMs _ _ _ _ _ (s.readyFor e.task) (s.timersFor e.task ++ [_])
      rw [hready, htimers]
      exact .asleep he (by simpa using hnext)

theorem answerTurn {reply : Reply ω} (h : w.Tracks none (s.first (.answer e reply)) p owners) :
    w.Tracks none (s.answerTurn e reply) p owners := by
  obtain ⟨job, stand, calls, hjob, hexecuting, hphase, hcount, howner, haside⟩ := h.served rfl
  generalize hready : s.readyFor e.task = ready at hphase
  generalize htimers : s.timersFor e.task = timers at hphase
  cases hphase with
  | answering he hnext hrest =>
    refine haside.answer hjob ⟨he, hexecuting, howner e.serial rfl, ?_, ?_⟩ hcount hnext
    · rw [hready]
      exact fun a ha => hrest a (List.mem_append_left _ ha)
    · rw [htimers]
      exact fun t ht => hrest _ (List.mem_append_right _ (List.mem_map_of_mem ht))

theorem settleTurn {outcome : Outcome ω} (h : w.Tracks none (s.first (.settle e outcome)) p owners) :
    ∃ p', w.Tracks none (s.settleTurn e outcome) p' owners := by
  obtain ⟨job, stand, calls, hjob, hexecuting, hphase, hcount, howner, haside⟩ := h.served rfl
  generalize hready : s.readyFor e.task = ready at hphase
  generalize htimers : s.timersFor e.task = timers at hphase
  cases hphase with
  | settling he hrest =>
    refine haside.settle hjob ⟨he, hexecuting, howner e.serial rfl, ?_, ?_⟩ hcount
    · rw [hready]
      exact fun a ha => hrest a (List.mem_append_left _ ha)
    · rw [htimers]
      exact fun t ht => hrest _ (List.mem_append_right _ (List.mem_map_of_mem ht))

/-- A delay runs out; nothing else is left of the job. -/
theorem requeue (h : w.Tracks (some k) s p owners) (hjob : w.jobs[k]? = some job) {b : Backoff}
    (hstands : p.Stands k (.resting b)) (hready : s.readyFor k = []) (htimers : s.timersFor k = [])
    (hcalls : w.Counts s p k job 0) : ∃ p', w.Tracks none (s.requeueTurn b) p' owners := by
  obtain ⟨hb, rfl⟩ := hstands
  obtain ⟨hscheduler, hidle, hendings, htouches⟩ := Pool.step_requeue h.reached.balanced hb
  have hqueued := h.step (.requeue b) htouches fun _ _ => .inl hendings
  rw [hscheduler, h.same] at hqueued
  refine ⟨_, hqueued.wake.close hjob ⟨.idle, 0, hidle, ?_, ?_⟩⟩
  · rw [Simulation.readyFor_wake, Simulation.timersFor_wake]
    show w.Phase _ _ _ _ _ _ (s.readyFor b.task) (s.timersFor b.task)
    rw [hready, htimers]
    exact .idle
  · rw [Counts, Simulation.callsFor_wake, hendings]
    exact hcalls

theorem restTurn {b : Backoff} (h : w.Tracks none (s.first (.rest b)) p owners) :
    ∃ p', w.Tracks none (s.restTurn b) p' owners := by
  obtain ⟨job, stand, calls, hjob, hstands, hphase, hcount, -, haside⟩ := h.served rfl
  generalize hready : s.readyFor b.task = ready at hphase
  generalize htimers : s.timersFor b.task = timers at hphase
  cases hphase with
  | resting =>
    rw [Simulation.restTurn]
    split
    · exact haside.requeue hjob hstands hready htimers hcount
    · have hwaiting := haside.setTimer b.delayMs (a := .requeue b) (by simp [Activity.task?])
        (owns_of_task hjob rfl (by simp [Activity.serial?]))
      refine ⟨p, hwaiting.close hjob ⟨.resting b, 0, hstands, ?_, hcount⟩⟩
      rw [Simulation.timersFor_setTimer _ rfl, htimers]
      show w.Phase _ _ _ _ _ _ (s.readyFor b.task) _
      rw [hready]
      exact .waiting

theorem requeueTurn {b : Backoff} (h : w.Tracks none (s.first (.requeue b)) p owners) :
    ∃ p', w.Tracks none (s.requeueTurn b) p' owners := by
  obtain ⟨job, stand, calls, hjob, hstands, hphase, hcount, -, haside⟩ := h.served rfl
  generalize hready : s.readyFor b.task = ready at hphase
  generalize htimers : s.timersFor b.task = timers at hphase
  cases hphase with
  | waking => exact haside.requeue hjob hstands hready htimers hcount

/-- The next execution is that of the job put aside. -/
theorem enroll (h : w.Tracks (some k) s p owners) :
    w.Tracks (some k) { s with executions := s.executions + 1 } p (owners ++ [k]) := by
  refine { h with serials := by rw [List.length_append, List.length_singleton, h.serials], owned := ?_ }
  intro a ha id hid
  obtain ⟨hlt, howner⟩ := h.owned a ha id hid
  refine ⟨hlt, fun serial hserial => ?_⟩
  have hold := howner serial hserial
  rwa [List.getElem?_append_left (List.getElem?_eq_some_iff.mp hold).1]

theorem handler?_eq (h : w.Tracks aside s p owners) : s.handler? w.kind = some (0, w.handler) := by
  simp [Simulation.handler?, h.handlers]

/-- The execution that a job is dispatched with. -/
theorem execution?_eq (h : w.Tracks aside s p owners) (hjob : w.jobs[k]? = some job) :
    ∃ e, s.execution? k = some e ∧ w.Executes k job e ∧ e.serial = s.executions := by
  obtain ⟨t, ht, hkept⟩ := h.kept k job hjob
  have hkind : t.kind = w.kind := hkept.kind.trans (w.kinds job (List.mem_of_getElem? hjob))
  refine ⟨⟨s.executions, k, 0, w.handler, t.input, t.timeoutMs⟩, ?_, ?_, rfl⟩
  · rw [Simulation.execution?, ht, Option.bind_some, hkind, h.handler?_eq, Option.map_some]
  · exact ⟨rfl, rfl, rfl, hkept.input, hkept.timeoutMs⟩

/-- Nothing is ready or set for a waiting job. -/
theorem idle_of_pending (h : w.Tracks none s p owners) (hjob : w.jobs[k]? = some job)
    (hpending : p.scheduler.status? k = some .pending) :
    s.readyFor k = [] ∧ s.timersFor k = [] ∧ w.Counts s p k job 0 := by
  obtain ⟨stand, calls, hstands, hphase, hcount⟩ := h.on k job hjob (Option.some_ne_none k)
  obtain rfl := hstands.eq_idle h.reached.balanced hpending
  generalize s.readyFor k = ready at hphase ⊢
  generalize s.timersFor k = timers at hphase ⊢
  cases hphase with
  | idle => exact ⟨rfl, rfl, hcount⟩

/-- A dispatcher finds nothing to do or launches a waiting job, which has attempts left. -/
theorem dispatch_cases (h : w.Tracks none s p owners) :
    (s.scheduler.dispatch = (none, s.scheduler) ∧
      (s.scheduler.queue = [] ∨ s.scheduler.concurrency ≤ s.scheduler.inFlight)) ∨
    ∃ entry t scheduler e p', entry ∈ s.scheduler.queue ∧ s.scheduler.task? entry.task = some t ∧
      t.attempts ≤ t.maxRetries ∧
      scheduler = { s.scheduler with queue := s.scheduler.queue.erase entry }.launch entry.task t ∧
      s.scheduler.dispatch = (some entry.task, scheduler) ∧
      ({ s with scheduler := scheduler } : Simulation ι ω).execution? entry.task = some e ∧
      w.Tracks none (({ s with scheduler := scheduler, executions := s.executions + 1 } : Simulation ι ω).push
        (.begin e)) p' (owners ++ [entry.task]) := by
  have hb := h.reached.balanced
  obtain hnone | ⟨entry, t, hmem, ht, hpending, hdispatch, hscheduler, hlaunched, hendings, htouches⟩ :=
    Pool.step_dispatch_cases hb
  · rw [h.same] at hnone
    exact .inl hnone
  have hleft : t.attempts ≤ t.maxRetries := by
    have haccounts := h.reached.accounts ht
    generalize p.endingsOf entry.task = es at haccounts
    cases haccounts with
    | waiting _ _ hleft hattempts => exact hattempts ▸ hleft
    | running hstatus | completed hstatus | exhausted hstatus | refused hstatus => simp [hpending] at hstatus
  have hlt : entry.task < w.jobs.length := by
    rw [← h.length, ← h.same]
    exact Scheduler.lt_length_of_task? ht
  have hjob : w.jobs[entry.task]? = some (w.jobs.get ⟨entry.task, hlt⟩) := List.getElem?_eq_getElem hlt
  obtain ⟨hready, htimers, hcalls⟩ :=
    h.idle_of_pending hjob ((Scheduler.status?_of_task? ht).trans (congrArg some hpending))
  have hstep := (h.putAside entry.task).step .dispatch htouches fun _ _ => .inl hendings
  obtain ⟨e, hexecution, he, hserial⟩ := hstep.execution?_eq hjob
  have htask : (Activity.begin e : Activity ι ω).task? = some entry.task := congrArg some he.task
  have hbegin := hstep.enroll.push (a := .begin e) (by simp [htask]) <| owns_of_task hjob htask <| by
    intro serial hbegin
    rw [Activity.serial?, Option.some.injEq, hserial] at hbegin
    rw [← hbegin, ← h.serials]
    exact List.getElem?_concat_length
  rw [h.same] at hmem ht hdispatch hscheduler
  refine .inr ⟨entry, t, _, e, _, hmem, ht, hleft, hscheduler, hdispatch, hexecution, hbegin.close hjob
    ⟨.launched, 0, hlaunched, ?_, ?_⟩⟩
  · rw [Simulation.readyFor_push htask]
    show w.Phase _ _ _ _ _ _ (s.readyFor entry.task ++ [_]) (s.timersFor entry.task)
    rw [hready, htimers]
    exact .launched he
  · rw [Counts, hendings]
    exact hcalls

end Tracks

end CodeAudit.Bench
