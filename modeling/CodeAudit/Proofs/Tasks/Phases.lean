import CodeAudit.Proofs.Tasks.Stands

/-! Work of one kind in a simulation. A job that is under way has its own activities, ready or set for
later, and they go with its executions from phase to phase; what is done for one job leaves the
phases of the others alone. -/
namespace CodeAudit

/-- How the attempt with the given number ends: the input may be refused, and an answer counts if it
comes before the time is up. -/
def Handler.ending {ι ω : Type} (h : Handler ι ω) (input : ι) (timeoutMs attempt : Nat) : Ending ω :=
  match h.reject? input with
  | some reason => .refused reason
  | none =>
    if (h.play input attempt).sleepMs < timeoutMs then .answered (h.play input attempt).reply else .timedOut

/-- Work of one kind: the tasks as they were submitted and the handler that does them. The inputs have
keys of their own, so that the calls for one task are not counted for another. -/
structure Bench (ι ω : Type) where
  config : SchedulerConfig
  kind : String
  handler : Handler ι ω
  jobs : List (Task ι ω)
  kinds : ∀ job ∈ jobs, job.kind = kind
  keys : (jobs.map fun job => handler.key job.input).Nodup

namespace Activity

variable {ι ω : Type}

/-- The task that an activity is for. -/
def task? : Activity ι ω → Option Nat
  | dispatch => none
  | begin e | call e | answer e _ | settle e _ => some e.task
  | rest b | requeue b => some b.task

end Activity

namespace Bench

variable {ι ω : Type}

/-- How the attempt with the given number at a job ends. -/
def ending (w : Bench ι ω) (job : Task ι ω) (attempt : Nat) : Ending ω :=
  w.handler.ending job.input job.timeoutMs attempt

/-- The execution does a job in the given place. -/
structure Executes (w : Bench ι ω) (id : Nat) (job : Task ι ω) (e : Execution ι ω) : Prop where
  task : e.task = id
  place : e.place = 0
  handler : e.handler = w.handler
  input : e.input = job.input
  timeoutMs : e.timeoutMs = job.timeoutMs

/-- The activities of a job, ready ones and set ones, for where it stands, with the calls that were made
for the execution under way, which ends as `next` says. What is left beside an answer or an outcome
is dropped with it. -/
inductive Phase (w : Bench ι ω) (nowMs id : Nat) (job : Task ι ω) (next : Ending ω) :
    Pool.Stand → (calls : Nat) → List (Activity ι ω) → List (Timer ι ω) → Prop
  | idle : Phase w nowMs id job next .idle 0 [] []
  | launched {e : Execution ι ω} (he : w.Executes id job e) : Phase w nowMs id job next .launched 0 [.begin e] []
  | called {e : Execution ι ω} (he : w.Executes id job e) (haccepted : w.handler.reject? job.input = none)
      (hlimit : job.timeoutMs ≠ 0) :
      Phase w nowMs id job next .executing 0 [.call e]
        [⟨nowMs + job.timeoutMs, .settle e (Ending.timedOut.outcome job.timeoutMs)⟩]
  | asleep {e : Execution ι ω} {reply : Reply ω} {limitMs replyMs : Nat} (he : w.Executes id job e)
      (hnext : next = if replyMs < limitMs then .answered reply else .timedOut) :
      Phase w nowMs id job next .executing 1 []
        [⟨limitMs, .settle e (Ending.timedOut.outcome job.timeoutMs)⟩, ⟨replyMs, .answer e reply⟩]
  | answering {e : Execution ι ω} {reply : Reply ω} {ready : List (Activity ι ω)} {timers : List (Timer ι ω)}
      (he : w.Executes id job e) (hnext : next = .answered reply)
      (hrest : ∀ a ∈ ready ++ timers.map (·.activity), a.serial? = some e.serial) :
      Phase w nowMs id job next .executing 1 (.answer e reply :: ready) timers
  | settling {e : Execution ι ω} {ready : List (Activity ι ω)} {timers : List (Timer ι ω)}
      (he : w.Executes id job e) (hrest : ∀ a ∈ ready ++ timers.map (·.activity), a.serial? = some e.serial) :
      Phase w nowMs id job next .executing 1 (.settle e (next.outcome job.timeoutMs) :: ready) timers
  | resting {b : Backoff} : Phase w nowMs id job next (.resting b) 0 [.rest b] []
  | waiting {b : Backoff} {untilMs : Nat} : Phase w nowMs id job next (.resting b) 0 [] [⟨untilMs, .requeue b⟩]
  | waking {b : Backoff} : Phase w nowMs id job next (.resting b) 0 [.requeue b] []

end Bench

namespace Simulation

variable {ι ω : Type}

def readyFor (s : Simulation ι ω) (id : Nat) : List (Activity ι ω) := s.ready.filter fun a => a.task? = some id

def timersFor (s : Simulation ι ω) (id : Nat) : List (Timer ι ω) :=
  s.timers.filter fun t => t.activity.task? = some id

/-- The calls of the first handler with a key. -/
def callsFor (s : Simulation ι ω) (key : String) : Nat := s.calls.countP fun c => c.handler = 0 ∧ c.key = key

/-- What is ready or set for later. -/
def agenda (s : Simulation ι ω) : List (Activity ι ω) := s.ready ++ s.timers.map (·.activity)

/-- The simulation with an activity that is to be served before it goes on. -/
def first (s : Simulation ι ω) (a : Activity ι ω) : Simulation ι ω := { s with ready := a :: s.ready }

variable {s : Simulation ι ω} {a : Activity ι ω} {id serial : Nat}

theorem readyFor_first (ha : a.task? = some id) : (s.first a).readyFor id = a :: s.readyFor id := by
  simp [readyFor, first, ha]

theorem readyFor_push (ha : a.task? = some id) : (s.push a).readyFor id = s.readyFor id ++ [a] := by
  simp [readyFor, push, ha]

theorem timersFor_setTimer (delayMs : Nat) (ha : a.task? = some id) :
    (s.setTimer delayMs a).timersFor id = s.timersFor id ++ [⟨s.nowMs + delayMs, a⟩] := by
  simp [timersFor, setTimer, ha]

theorem readyFor_wake (s : Simulation ι ω) (id : Nat) : s.wake.readyFor id = s.readyFor id := by
  unfold wake
  split
  · simp [readyFor, push, Activity.task?]
  · rfl

theorem timersFor_wake (s : Simulation ι ω) (id : Nat) : s.wake.timersFor id = s.timersFor id := by
  unfold wake
  split <;> rfl

theorem callsFor_wake (s : Simulation ι ω) (key : String) : s.wake.callsFor key = s.callsFor key := by
  unfold wake
  split <;> rfl

/-- The end of an execution, by what the scheduler makes of it. -/
theorem settleTurn_eq {e : Execution ι ω} {outcome : Outcome ω} {pause? : Option Backoff}
    {scheduler : Scheduler ι ω} (h : s.scheduler.finish e.task outcome = (pause?, scheduler)) :
    s.settleTurn e outcome = (pause?.elim { s.cancel e.serial with scheduler := scheduler }
      fun b => ({ s.cancel e.serial with scheduler := scheduler } : Simulation ι ω).push (.rest b)).wake := by
  have hfinish : (s.cancel e.serial).scheduler.finish e.task outcome = (pause?, scheduler) := h
  cases pause? <;> simp only [settleTurn, hfinish, Option.elim]

theorem readyFor_cancel (h : ∀ a ∈ s.readyFor id, a.serial? = some serial) : (s.cancel serial).readyFor id = [] := by
  refine List.filter_eq_nil_iff.mpr fun a ha => ?_
  simp only [cancel, List.mem_filter, decide_eq_true_eq] at ha
  intro htask
  exact ha.2 (h a (List.mem_filter.mpr ⟨ha.1, htask⟩))

theorem timersFor_cancel (h : ∀ t ∈ s.timersFor id, t.activity.serial? = some serial) :
    (s.cancel serial).timersFor id = [] := by
  refine List.filter_eq_nil_iff.mpr fun t ht => ?_
  simp only [cancel, List.mem_filter, decide_eq_true_eq] at ht
  intro htask
  exact ht.2 (h t (List.mem_filter.mpr ⟨ht.1, htask⟩))

end Simulation

namespace Bench

variable {ι ω : Type}

/-- The next ending of a job. -/
def next (w : Bench ι ω) (p : Pool ι ω) (id : Nat) (job : Task ι ω) : Ending ω :=
  w.ending job ((p.endingsOf id).length + 1)

/-- Every execution of a job that has ended is a call, and so many more calls were made. A handler that
refuses the input, or has no time for it, is never called. -/
def Counts (w : Bench ι ω) (s : Simulation ι ω) (p : Pool ι ω) (id : Nat) (job : Task ι ω) (calls : Nat) : Prop :=
  w.handler.reject? job.input = none → job.timeoutMs ≠ 0 →
    s.callsFor (w.handler.key job.input) = (p.endingsOf id).length + calls

/-- A job is in one of its phases, and the calls for it are counted. -/
def On (w : Bench ι ω) (s : Simulation ι ω) (p : Pool ι ω) (id : Nat) (job : Task ι ω) : Prop :=
  ∃ stand calls, p.Stands id stand ∧
    w.Phase s.nowMs id job (w.next p id job) stand calls (s.readyFor id) (s.timersFor id) ∧
    w.Counts s p id job calls

/-- An activity is for a job of the bench. If it belongs to an execution, `owners` tells the task of
that. -/
def Owns (w : Bench ι ω) (owners : List Nat) (a : Activity ι ω) : Prop :=
  ∀ id, a.task? = some id → id < w.jobs.length ∧ ∀ k, a.serial? = some k → owners[k]? = some id

/-- The simulation does the work of the bench as the pool tells it, every job apart from the one
put `aside` in one of its phases, and all endings so far as the handler has them. -/
structure Tracks (w : Bench ι ω) (aside : Option Nat) (s : Simulation ι ω) (p : Pool ι ω) (owners : List Nat) :
    Prop where
  same : p.scheduler = s.scheduler
  reached : p.Reached w.config
  handlers : s.handlers = [(w.kind, w.handler)]
  length : s.scheduler.tasks.length = w.jobs.length
  kept : ∀ id job, w.jobs[id]? = some job → ∃ t, s.scheduler.task? id = some t ∧ job.Kept t
  serials : owners.length = s.executions
  owned : ∀ a ∈ s.agenda, w.Owns owners a
  on : ∀ id job, w.jobs[id]? = some job → some id ≠ aside → w.On s p id job
  script : ∀ id job, w.jobs[id]? = some job →
    p.endingsOf id = (List.range (p.endingsOf id).length).map fun i => w.ending job (i + 1)

section

variable {w : Bench ι ω} {aside : Option Nat} {s s' : Simulation ι ω} {p p' : Pool ι ω} {owners : List Nat}
  {a : Activity ι ω} {id k : Nat} {job : Task ι ω}

theorem On.congr (h : w.On s p id job) (hnow : s'.nowMs = s.nowMs) (hready : s'.readyFor id = s.readyFor id)
    (htimers : s'.timersFor id = s.timersFor id)
    (hcalls : s'.callsFor (w.handler.key job.input) = s.callsFor (w.handler.key job.input))
    (hagrees : p.Agrees p' id) : w.On s' p' id job := by
  obtain ⟨stand, calls, hstands, hphase, hcount⟩ := h
  refine ⟨stand, calls, hagrees.stands stand hstands, ?_, ?_⟩
  · rwa [next, hagrees.endings, hnow, hready, htimers]
  · rwa [Counts, hagrees.endings, hcalls]

namespace Tracks

/-- What is done for the job put aside, or for none, does not concern the other jobs. -/
theorem transfer (h : w.Tracks aside s p owners) (hscheduler : s'.scheduler = s.scheduler)
    (hnow : s'.nowMs = s.nowMs) (hhandlers : s'.handlers = s.handlers) (hexecutions : s'.executions = s.executions)
    (howned : ∀ a ∈ s'.agenda, a ∈ s.agenda ∨ w.Owns owners a)
    (hready : ∀ id, some id ≠ aside → s'.readyFor id = s.readyFor id)
    (htimers : ∀ id, some id ≠ aside → s'.timersFor id = s.timersFor id)
    (hcalls : ∀ id job, w.jobs[id]? = some job → some id ≠ aside →
      s'.callsFor (w.handler.key job.input) = s.callsFor (w.handler.key job.input)) :
    w.Tracks aside s' p owners where
  same := h.same.trans hscheduler.symm
  reached := h.reached
  handlers := hhandlers.trans h.handlers
  length := by rw [hscheduler, h.length]
  kept := by rw [hscheduler]; exact h.kept
  serials := h.serials.trans hexecutions.symm
  owned := fun a ha => (howned a ha).elim (h.owned a) fun hown => hown
  on := fun id job hjob hid => (h.on id job hjob hid).congr hnow (hready id hid) (htimers id hid)
    (hcalls id job hjob hid) ⟨fun _ hstands => hstands, rfl⟩
  script := h.script

/-- An activity is made ready that is for the job put aside or for none. -/
theorem push (h : w.Tracks aside s p owners) (ha : ∀ id, a.task? = some id → aside = some id)
    (hown : w.Owns owners a) : w.Tracks aside (s.push a) p owners := by
  refine h.transfer rfl rfl rfl rfl (fun b hb => ?_) (fun id hid => ?_) (fun _ _ => rfl) fun _ _ _ _ => rfl
  · simp only [Simulation.agenda, Simulation.push, List.mem_append, List.mem_singleton] at hb ⊢
    obtain (hb | rfl) | hb := hb
    · exact .inl (.inl hb)
    · exact .inr hown
    · exact .inl (.inr hb)
  · have hother : a.task? ≠ some id := fun htask => hid (ha id htask).symm
    simp [Simulation.readyFor, Simulation.push, hother]

/-- An activity is set for later that is for the job put aside. -/
theorem setTimer (h : w.Tracks aside s p owners) (delayMs : Nat) (ha : ∀ id, a.task? = some id → aside = some id)
    (hown : w.Owns owners a) : w.Tracks aside (s.setTimer delayMs a) p owners := by
  refine h.transfer rfl rfl rfl rfl (fun b hb => ?_) (fun _ _ => rfl) (fun id hid => ?_) fun _ _ _ _ => rfl
  · simp only [Simulation.agenda, Simulation.setTimer, List.map_append, List.map_singleton, List.mem_append,
      List.mem_singleton] at hb ⊢
    obtain hb | hb | rfl := hb
    · exact .inl (.inl hb)
    · exact .inl (.inr hb)
    · exact .inr hown
  · have hother : a.task? ≠ some id := fun htask => hid (ha id htask).symm
    simp [Simulation.timersFor, Simulation.setTimer, hother]

theorem wake (h : w.Tracks aside s p owners) : w.Tracks aside s.wake p owners := by
  unfold Simulation.wake
  split
  · refine Tracks.push ?_ (by simp [Activity.task?]) (by simp [Owns, Activity.task?])
    exact h.transfer rfl rfl rfl rfl (fun _ => .inl) (fun _ _ => rfl) (fun _ _ => rfl) fun _ _ _ _ => rfl
  · exact h.transfer rfl rfl rfl rfl (fun _ => .inl) (fun _ _ => rfl) (fun _ _ => rfl) fun _ _ _ _ => rfl

/-- What is left of an execution of the job put aside is dropped. -/
theorem cancel (h : w.Tracks (some k) s p owners) {serial : Nat} (howner : owners[serial]? = some k) :
    w.Tracks (some k) (s.cancel serial) p owners := by
  -- an activity of the same execution would be for the same job
  have hserial : ∀ a ∈ s.agenda, ∀ id, some id ≠ some k → a.task? = some id → a.serial? ≠ some serial := by
    intro a ha id hid htask heq
    have hsame := ((h.owned a ha) id htask).2 serial heq
    rw [howner] at hsame
    exact hid hsame.symm
  refine h.transfer rfl rfl rfl rfl (fun a ha => .inl ?_) (fun id hid => ?_) (fun id hid => ?_) fun _ _ _ _ => rfl
  · simp only [Simulation.agenda, Simulation.cancel, List.mem_append, List.mem_map] at ha ⊢
    obtain ha | ⟨t, ht, rfl⟩ := ha
    · exact .inl (List.mem_of_mem_filter ha)
    · exact .inr ⟨t, List.mem_of_mem_filter ht, rfl⟩
  · rw [Simulation.readyFor, Simulation.cancel, List.filter_filter, Simulation.readyFor]
    refine List.filter_congr fun a ha => ?_
    by_cases htask : a.task? = some id
    · simp [htask, hserial a (List.mem_append_left _ ha) id hid htask]
    · simp [htask]
  · rw [Simulation.timersFor, Simulation.cancel, List.filter_filter, Simulation.timersFor]
    refine List.filter_congr fun t ht => ?_
    by_cases htask : t.activity.task? = some id
    · have hmem : t.activity ∈ s.agenda := List.mem_append_right _ (List.mem_map_of_mem ht)
      simp [htask, hserial _ hmem id hid htask]
    · simp [htask]

/-- A call for the job put aside is entered. -/
theorem call (h : w.Tracks (some k) s p owners) (hjob : w.jobs[k]? = some job) {entry : CallEntry}
    (hkey : entry.key = w.handler.key job.input) :
    w.Tracks (some k) { s with calls := s.calls ++ [entry] } p owners := by
  refine h.transfer rfl rfl rfl rfl (fun _ => .inl) (fun _ _ => rfl) (fun _ _ => rfl) fun id other hother hid => ?_
  have hne : entry.key ≠ w.handler.key other.input := by
    rw [hkey]
    intro hsame
    have hplace : ∀ i j : Nat, (w.jobs.map fun job => w.handler.key job.input)[i]? =
        some (w.handler.key job.input) → (w.jobs.map fun job => w.handler.key job.input)[j]? =
        some (w.handler.key job.input) → i = j :=
      fun i j hi hj => (List.getElem?_inj (List.getElem?_eq_some_iff.mp hi).1 w.keys).mp (hi.trans hj.symm)
    have hindex := hplace k id (by simp [hjob]) (by simp [hother, hsame])
    exact hid (congrArg some hindex.symm)
  simp [Simulation.callsFor, hne]

theorem putAside (h : w.Tracks none s p owners) (k : Nat) : w.Tracks (some k) s p owners :=
  { h with on := fun id job hjob _ => h.on id job hjob (Option.some_ne_none id) }

/-- An activity is served that is for the job put aside or for none. -/
theorem serve (h : w.Tracks aside (s.first a) p owners) (ha : ∀ id, a.task? = some id → aside = some id) :
    w.Tracks aside s p owners := by
  refine h.transfer rfl rfl rfl rfl (fun b hb => .inl (List.mem_cons_of_mem a hb)) (fun id hid => ?_)
    (fun _ _ => rfl) fun _ _ _ _ => rfl
  have hother : a.task? ≠ some id := fun htask => hid (ha id htask).symm
  simp [Simulation.readyFor, Simulation.first, hother]

/-- The job that was put aside is in one of its phases again. -/
theorem close (h : w.Tracks (some k) s p owners) (hjob : w.jobs[k]? = some job) (hon : w.On s p k job) :
    w.Tracks none s p owners := by
  refine { h with on := fun id other hother _ => ?_ }
  by_cases hid : id = k
  · subst hid
    rw [hjob] at hother
    cases hother
    exact hon
  · exact h.on id other hother (by simpa using hid)

/-- The pool takes a step that concerns the job put aside. -/
theorem step (h : w.Tracks (some k) s p owners) (action : Action ι ω) (htouches : p.Touches (p.step action) k)
    (hendings : ∀ job, w.jobs[k]? = some job → (p.step action).endingsOf k = p.endingsOf k ∨
      (p.step action).endingsOf k = p.endingsOf k ++ [w.next p k job]) :
    w.Tracks (some k) { s with scheduler := (p.step action).scheduler } (p.step action) owners where
  same := rfl
  reached := h.reached.step action
  handlers := h.handlers
  length := by rw [htouches.length, h.same, h.length]
  kept := by
    intro id job hjob
    obtain ⟨t, ht, hkept⟩ := h.kept id job hjob
    have hmoves := Pool.step_moves h.reached.balanced action id
    rw [h.same, ht] at hmoves
    obtain ⟨t', ht', hkept'⟩ := hmoves.kept
    exact ⟨t', ht', hkept.trans hkept'⟩
  serials := h.serials
  owned := h.owned
  on := fun id job hjob hid =>
    (h.on id job hjob hid).congr rfl rfl rfl rfl (htouches.agrees id (by simpa using hid))
  script := by
    intro id job hjob
    by_cases hid : id = k
    · subst hid
      rcases hendings job hjob with hsame | hmore
      · rw [hsame]
        exact h.script id job hjob
      · rw [hmore, List.length_append, List.length_singleton, List.range_succ, List.map_append,
          ← h.script id job hjob]
        rfl
    · rw [(htouches.agrees id hid).endings]
      exact h.script id job hjob

end Tracks

end

end Bench

end CodeAudit
