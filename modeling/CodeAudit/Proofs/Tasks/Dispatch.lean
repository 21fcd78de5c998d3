import CodeAudit.Proofs.Sorting
import CodeAudit.Proofs.Tasks.Stands

/-! The order in which tasks are served. A log of the entries into the queue, one for each submission and one
for the end of each delay, tells what the sequence numbers in the queue stand for: the latest entry of a task.
What is served first has the highest priority and, among its equals, the earliest such entry. -/
namespace CodeAudit

namespace Priority

theorem rank_injective : Function.Injective rank := by
  intro a b h
  cases a <;> cases b <;> first | rfl | exact absurd h (by decide)

theorem le_iff_rank {a b : Priority} : a ≤ b ↔ a.rank ≤ b.rank := Iff.rfl

end Priority

namespace QueueEntry

variable {q waiting : List QueueEntry} {a b e : QueueEntry}

theorem precedes_iff : a.precedes b = true ↔
    b.priority.rank < a.priority.rank ∨ (a.priority.rank = b.priority.rank ∧ a.sequence < b.sequence) := by
  simp [precedes]

theorem not_precedes_iff : a.precedes b = false ↔
    a.priority ≤ b.priority ∧ (a.priority = b.priority → b.sequence ≤ a.sequence) := by
  rw [← Bool.not_eq_true, precedes_iff, Priority.le_iff_rank, ← Priority.rank_injective.eq_iff]
  omega

/-- Nothing precedes the entry that is served first. -/
theorem not_precedes_first (h : first? q = some e) : ∀ d ∈ q, d.precedes e = false := by
  induction q generalizing e with
  | nil => simp
  | cons c rest ih =>
    simp only [first?] at h
    cases hrest : first? rest with
    | none =>
      rw [hrest] at h
      cases h
      rw [first?_eq_none_iff.mp hrest, List.forall_mem_singleton, ← Bool.not_eq_true, precedes_iff]
      omega
    | some f =>
      have hf := ih hrest
      simp only [hrest, Option.some.injEq] at h
      split at h
      case isTrue hfc =>
        subst h
        refine List.forall_mem_cons.mpr ⟨?_, hf⟩
        rw [precedes_iff] at hfc
        rw [← Bool.not_eq_true, precedes_iff]
        omega
      case isFalse hfc =>
        subst h
        refine List.forall_mem_cons.mpr ⟨?_, fun d hd => ?_⟩
        · rw [← Bool.not_eq_true, precedes_iff]
          omega
        · have hdf := hf d hd
          rw [← Bool.not_eq_true, precedes_iff] at hdf ⊢
          rw [precedes_iff] at hfc
          omega

/-- A queue in its order is headed by the entry that is served first. -/
theorem exists_tail_of_first? (hperm : waiting.Perm q) (hwaiting : waiting.Pairwise fun a b => a.precedes b)
    (h : first? q = some e) : ∃ rest, waiting = e :: rest ∧ rest.Perm (q.erase e) := by
  have hmem : e ∈ waiting := hperm.mem_iff.mpr (mem_of_first? h)
  cases waiting with
  | nil => cases hmem
  | cons d rest =>
    have hde : d = e := by
      by_contra hne
      have hprecedes := (List.pairwise_cons.mp hwaiting).1 e ((List.mem_cons.mp hmem).resolve_left (Ne.symm hne))
      have hnot := not_precedes_first h d (hperm.mem_iff.mp List.mem_cons_self)
      rw [hnot] at hprecedes
      cases hprecedes
    subst hde
    refine ⟨rest, rfl, ?_⟩
    have herase := hperm.erase d
    rwa [List.erase_cons_head] at herase

end QueueEntry

namespace Pool

variable {ι ω : Type} {p : Pool ι ω} {log : List Nat}

/-- The task that an action puts into the queue: one that is submitted, or one whose delay ends. -/
def enters? (p : Pool ι ω) : Action ι ω → Option Nat
  | .add kind input options =>
    match p.scheduler.add kind input options with
    | .ok (id, _) => some id
    | .error _ => none
  | .requeue b => if b ∈ p.resting then some b.task else none
  | _ => none

/-- The tasks in the order in which a run puts them into the queue. -/
def entries (p : Pool ι ω) : List (Action ι ω) → List Nat
  | [] => []
  | a :: rest => (p.enters? a).toList ++ (p.step a).entries rest

/-- Of two tasks, the first one entered the queue for the last time before the second one did. -/
def EnteredBefore (log : List Nat) (i k : Nat) : Prop :=
  ∃ before after, log = before ++ k :: after ∧ i ∈ before ∧ i ∉ k :: after

/-- The place of the latest entry of a task, counted from one. -/
def LatestAt (log : List Nat) (id place : Nat) : Prop :=
  ∃ before after, log = before ++ id :: after ∧ id ∉ after ∧ before.length + 1 = place

theorem LatestAt.concat {id place k : Nat} (h : LatestAt log id place) (hne : id ≠ k) :
    LatestAt (log ++ [k]) id place := by
  obtain ⟨before, after, rfl, hafter, hplace⟩ := h
  refine ⟨before, after ++ [k], by simp, ?_, hplace⟩
  simpa using ⟨hafter, hne⟩

theorem latestAt_concat (log : List Nat) (id : Nat) : LatestAt (log ++ [id]) id (log.length + 1) :=
  ⟨log, [], rfl, by simp, rfl⟩

theorem LatestAt.enteredBefore {i k m n : Nat} (hi : LatestAt log i m) (hk : LatestAt log k n) (hne : i ≠ k)
    (hle : m ≤ n) : EnteredBefore log i k := by
  obtain ⟨before, after, rfl, hi, rfl⟩ := hi
  obtain ⟨before', after', hlog, -, rfl⟩ := hk
  refine ⟨before', after', hlog, ?_⟩
  obtain ⟨between, rfl, hrest⟩ | ⟨between, rfl, hrest⟩ := List.append_eq_append_iff.mp hlog
  · cases between with
    | nil =>
      rw [List.nil_append, List.cons.injEq] at hrest
      exact absurd hrest.1 hne
    | cons j between =>
      rw [List.cons_append, List.cons.injEq] at hrest
      obtain ⟨rfl, rfl⟩ := hrest
      exact ⟨by simp, fun h => hi (List.mem_append_right _ h)⟩
  · -- the entry of the second task cannot come first
    cases between with
    | nil =>
      rw [List.nil_append, List.cons.injEq] at hrest
      exact absurd hrest.1.symm hne
    | cons j between =>
      rw [List.length_append, List.length_cons] at hle
      omega

/-- Sequence numbers count the entries into the queue, and each entry in the queue is the latest of its task. -/
structure Numbered (p : Pool ι ω) (log : List Nat) : Prop where
  sequence : p.scheduler.sequence = log.length
  latest : ∀ e ∈ p.scheduler.queue, LatestAt log e.task e.sequence

namespace Numbered

variable {p' : Pool ι ω}

/-- No task enters the queue; those in it stay or leave, or change their priority. -/
theorem stay (h : p.Numbered log) (hsequence : p'.scheduler.sequence = p.scheduler.sequence)
    (hqueue : ∀ e ∈ p'.scheduler.queue, ∃ d ∈ p.scheduler.queue, d.task = e.task ∧ d.sequence = e.sequence) :
    p'.Numbered log := by
  refine ⟨hsequence.trans h.sequence, fun e he => ?_⟩
  obtain ⟨d, hd, htask, hplace⟩ := hqueue e he
  rw [← htask, ← hplace]
  exact h.latest d hd

/-- A task enters the queue, at the end. -/
theorem enter (h : p.Numbered log) {id : Nat} {q : Priority}
    (hsequence : p'.scheduler.sequence = p.scheduler.sequence + 1)
    (hqueue : p'.scheduler.queue =
      (p.scheduler.queue.filter fun e => e.task ≠ id) ++ [⟨id, q, p.scheduler.sequence + 1⟩]) :
    p'.Numbered (log ++ [id]) := by
  refine ⟨by rw [hsequence, h.sequence, List.length_append, List.length_singleton], fun e he => ?_⟩
  rw [hqueue, List.mem_append, List.mem_singleton] at he
  rcases he with he | rfl
  · obtain ⟨hmem, hne⟩ := List.mem_filter.mp he
    exact (h.latest e hmem).concat (of_decide_eq_true hne)
  · rw [h.sequence]
    exact latestAt_concat log id

theorem step (h : p.Numbered log) (hb : p.Balanced) (a : Action ι ω) :
    (p.step a).Numbered (log ++ (p.enters? a).toList) := by
  have hstay : ∀ {p' : Pool ι ω}, p'.Numbered log → p'.Numbered (log ++ []) := by
    intro p' h'
    rwa [List.append_nil]
  have hstill : ∀ {p' : Pool ι ω}, p'.scheduler.sequence = p.scheduler.sequence →
      p'.scheduler.queue = p.scheduler.queue → p'.Numbered (log ++ []) := by
    intro p' hsequence hqueue
    exact hstay (h.stay hsequence fun e he => ⟨e, hqueue ▸ he, rfl, rfl⟩)
  cases a with
  | register kind =>
    refine hstill ?_ ?_ <;> simp only [Pool.step, Scheduler.register] <;> split <;> rfl
  | add kind input options =>
    simp only [Pool.step, enters?]
    cases hadd : p.scheduler.add kind input options with
    | error e => exact hstill rfl rfl
    | ok r =>
      obtain ⟨-, -, rfl⟩ := Scheduler.add_ok_iff.mp hadd
      exact h.enter rfl rfl
  | updatePriority id q =>
    obtain ⟨e, he, -⟩ | ⟨t, ht, hstatus, ⟨-, hupdate⟩ | hmissing⟩ := p.scheduler.updatePriority_cases id q
    · refine hstill ?_ ?_ <;> simp only [Pool.step, he]
    · refine hstay (h.stay ?_ fun e he => ?_)
      · simp only [Pool.step, hupdate]
      · simp only [Pool.step, hupdate] at he
        obtain ⟨d, hd, rfl⟩ := List.mem_map.mp he
        refine ⟨d, hd, ?_⟩
        split <;> exact ⟨rfl, rfl⟩
    · refine False.elim (hmissing ((hb.pending.mem_iff id).mpr ?_))
      rw [Scheduler.status?_of_task? ht, hstatus]
  | start => exact hstill rfl rfl
  | stop => exact hstill rfl rfl
  | dispatch =>
    obtain hnone | ⟨e, t, -, -, -, hdispatch⟩ := Scheduler.dispatch_cases hb.queue_known
    · refine hstill ?_ ?_ <;> simp only [Pool.step, hnone]
    · refine hstay (h.stay ?_ fun d hd => ?_)
      · simp only [Pool.step, hdispatch]
        rfl
      · simp only [Pool.step, hdispatch] at hd
        exact ⟨d, List.mem_of_mem_erase hd, rfl, rfl⟩
  | announce id =>
    refine hstill ?_ ?_ <;> simp only [Pool.step, Scheduler.announce]
    · split
      · split <;> rfl
      · rfl
    · split
      · split <;> rfl
      · rfl
  | finish id ending =>
    by_cases hid : id ∈ p.executing
    · obtain ⟨t, ht, -⟩ := hb.running_of_executing hid
      refine hstill ?_ ?_ <;> simp only [Pool.step, if_pos hid, Scheduler.finish_eq ht]
    · refine hstill ?_ ?_ <;> simp only [Pool.step, if_neg hid]
  | requeue b =>
    simp only [Pool.step, enters?]
    split
    · obtain ⟨t, ht, -⟩ := hb.retrying_of_resting ‹_›
      rw [Scheduler.requeue_eq ht]
      exact h.enter rfl rfl
    · exact hstill rfl rfl

theorem run (h : p.Numbered log) (hb : p.Balanced) (actions : List (Action ι ω)) :
    (p.run actions).Numbered (log ++ p.entries actions) := by
  induction actions generalizing p log with
  | nil => rwa [entries, List.append_nil]
  | cons a rest ih =>
    rw [entries, ← List.append_assoc]
    exact ih (h.step hb a) (balanced_step p a hb)

end Numbered

theorem numbered_run (config : SchedulerConfig) (actions : List (Action ι ω)) :
    ((initial config).run actions).Numbered ((initial config).entries actions) := by
  have hnone : (initial config : Pool ι ω).Numbered [] := ⟨rfl, by simp [initial]⟩
  exact hnone.run (.initial config) actions

/-- No waiting task has a higher priority, and none of the same priority entered the queue earlier. -/
def IsForemost (p : Pool ι ω) (log : List Nat) (id : Nat) : Prop :=
  ∃ t, p.scheduler.task? id = some t ∧ t.status = .pending ∧
    ∀ k u, k ≠ id → p.scheduler.task? k = some u → u.status = .pending →
      u.priority ≤ t.priority ∧ (u.priority = t.priority → EnteredBefore log id k)

theorem isForemost_of_dispatch (hb : p.Balanced) (hn : p.Numbered log) {id : Nat}
    (h : p.scheduler.dispatch.1 = some id) : p.IsForemost log id := by
  obtain hnone | ⟨e, t, -, hfirst, ht, hdispatch⟩ := Scheduler.dispatch_cases hb.queue_known
  · rw [hnone] at h
    cases h
  rw [hdispatch] at h
  obtain rfl : e.task = id := Option.some.inj h
  have hmem := QueueEntry.mem_of_first? hfirst
  have hpending : p.scheduler.status? e.task = some .pending :=
    (hb.pending.mem_iff e.task).mp (List.mem_map_of_mem hmem)
  rw [Scheduler.status?_of_task? ht, Option.some.injEq] at hpending
  refine ⟨t, ht, hpending, fun k u hne hu hstatus => ?_⟩
  have hqueued : k ∈ p.scheduler.queue.map (·.task) :=
    (hb.pending.mem_iff k).mpr (by rw [Scheduler.status?_of_task? hu, hstatus])
  obtain ⟨d, hd, rfl⟩ := List.mem_map.mp hqueued
  obtain ⟨hle, hplace⟩ := QueueEntry.not_precedes_iff.mp (QueueEntry.not_precedes_first hfirst d hd)
  rw [hb.queue_ranks d hd u hu, hb.queue_ranks e hmem t ht] at hle hplace
  exact ⟨hle, fun heq => (hn.latest e hmem).enteredBefore (hn.latest d hd) (Ne.symm hne) (hplace heq)⟩

end Pool

/-! One task at a time: where all tasks are submitted before the start and none of them fails or is changed, the
executions begin in the order that sorting the submissions gives. -/

namespace Action

variable {ι ω : Type}

def isSubmission : Action ι ω → Bool
  | register _ | add .. => true
  | _ => false

/-- Nothing is submitted or changed, and no execution fails. -/
def isSmooth : Action ι ω → Bool
  | add .. | updatePriority .. => false
  | finish _ (.answered (.output _)) => true
  | finish .. => false
  | _ => true

end Action

def TaskEvent.begun? : TaskEvent → Option Nat
  | started id _ _ => some id
  | completed _ | retrying .. | failed .. => none

/-- The tasks by decreasing priority; equals stay in the order of their submission. -/
def Scheduler.byPriority {ι ω : Type} (s : Scheduler ι ω) : List Nat :=
  (s.tasks.zipIdx.mergeSort fun a b => decide (b.1.priority ≤ a.1.priority)).map (·.2)

namespace Pool

variable {ι ω : Type} {p : Pool ι ω} {order : List Nat}

/-- The tasks whose executions have begun, in their order. -/
def executions (p : Pool ι ω) : List Nat := p.scheduler.events.filterMap TaskEvent.begun?

/-- Nothing but submissions has happened. -/
structure Submitted (p : Pool ι ω) : Prop where
  launched : p.launched = []
  resting : p.resting = []
  events : p.scheduler.events = []
  sequence : p.scheduler.sequence = p.scheduler.tasks.length
  queue : p.scheduler.queue = p.scheduler.tasks.zipIdx.map fun x => ⟨x.2, x.1.priority, x.2 + 1⟩

theorem Submitted.step (h : p.Submitted) {a : Action ι ω} (ha : a.isSubmission = true) : (p.step a).Submitted := by
  cases a with
  | register kind =>
    simp only [Pool.step, Scheduler.register]
    split
    · exact h
    · exact ⟨h.launched, h.resting, h.events, h.sequence, h.queue⟩
  | add kind input options =>
    simp only [Pool.step]
    cases hadd : p.scheduler.add kind input options with
    | error e => exact h
    | ok r =>
      obtain ⟨-, -, rfl⟩ := Scheduler.add_ok_iff.mp hadd
      have hfresh : p.scheduler.tasks.length ∉ p.scheduler.queue.map (·.task) := by
        rw [h.queue, List.map_map, List.mem_map]
        rintro ⟨⟨t, id⟩, hmem, rfl⟩
        exact Nat.lt_irrefl _ (List.snd_lt_of_mem_zipIdx hmem)
      refine ⟨h.launched, h.resting, h.events, ?_, ?_⟩
      · simp [h.sequence]
      · simp only [Scheduler.filter_queue_of_notMem hfresh]
        rw [List.zipIdx_append, List.map_append, ← h.queue, h.sequence, Nat.zero_add]
        rfl
  | updatePriority | start | stop | dispatch | announce | finish | requeue => cases ha

/-- One task is under way at most, and what has begun and what waits make up the order. -/
structure InTurn (p : Pool ι ω) (order : List Nat) : Prop where
  balanced : p.Balanced
  concurrency : p.scheduler.concurrency = 1
  resting : p.resting = []
  waiting : ∃ waiting : List QueueEntry, waiting.Perm p.scheduler.queue ∧
    (waiting.Pairwise fun a b => a.precedes b) ∧ p.executions ++ p.launched ++ waiting.map (·.task) = order

namespace InTurn

/-- Nothing that counts has changed. -/
theorem transfer {p' : Pool ι ω} (h : p.InTurn order) (hb : p'.Balanced)
    (hconfig : p'.scheduler.config = p.scheduler.config) (hresting : p'.resting = p.resting)
    (hqueue : p'.scheduler.queue = p.scheduler.queue)
    (hbegun : p'.executions ++ p'.launched = p.executions ++ p.launched) : p'.InTurn order := by
  refine ⟨hb, ?_, hresting.trans h.resting, ?_⟩
  · rw [Scheduler.concurrency, hconfig]
    exact h.concurrency
  · rw [hqueue, hbegun]
    exact h.waiting

/-- What is under way has begun or begins next, as only one task may be under way. -/
theorem launched_eq (h : p.InTurn order) {id : Nat} (hid : id ∈ p.launched) : p.launched = [id] := by
  have hle := h.balanced.inFlight_le
  rw [h.balanced.inFlight_eq, h.concurrency, List.length_append] at hle
  obtain ⟨k, hk⟩ := List.length_eq_one_iff.mp (show p.launched.length = 1 by
    have := List.length_pos_of_mem hid
    omega)
  rw [hk] at hid ⊢
  rw [List.mem_singleton.mp hid]

theorem dispatch (h : p.InTurn order) : (p.step .dispatch).InTurn order := by
  have hb := balanced_step p .dispatch h.balanced
  have hconfig := config_step h.balanced .dispatch
  obtain hnone | ⟨e, t, hslot, hfirst, ht, hdispatch⟩ := Scheduler.dispatch_cases h.balanced.queue_known
  · simp only [Pool.step, hnone]
    exact h
  have hidle : p.launched = [] := by
    rw [h.concurrency, h.balanced.inFlight_eq, List.length_append] at hslot
    exact List.eq_nil_of_length_eq_zero (by omega)
  obtain ⟨waiting, hperm, hordered, horder⟩ := h.waiting
  obtain ⟨rest, rfl, hrest⟩ := QueueEntry.exists_tail_of_first? hperm hordered hfirst
  have hqueue : (p.step .dispatch).scheduler.queue = p.scheduler.queue.erase e := by
    simp only [Pool.step, hdispatch]
    rfl
  have hlaunched : (p.step .dispatch).launched = [e.task] := by
    simp only [Pool.step, hdispatch, hidle, List.nil_append]
  have hbegun : (p.step .dispatch).executions = p.executions := by
    simp only [Pool.step, hdispatch]
    rfl
  refine ⟨hb, ?_, ?_, rest, ?_, (List.pairwise_cons.mp hordered).2, ?_⟩
  · rw [Scheduler.concurrency, hconfig]
    exact h.concurrency
  · simp only [Pool.step, hdispatch]
    exact h.resting
  · rwa [hqueue]
  · rw [hbegun, hlaunched, ← horder, hidle]
    simp

theorem step (h : p.InTurn order) {a : Action ι ω} (ha : a.isSmooth = true) : (p.step a).InTurn order := by
  have hb := balanced_step p a h.balanced
  have hconfig := config_step h.balanced a
  cases a with
  | add | updatePriority => cases ha
  | dispatch => exact h.dispatch
  | start => exact h.transfer hb hconfig rfl rfl rfl
  | stop => exact h.transfer hb hconfig rfl rfl rfl
  | register kind =>
    have hsame : (p.step (.register kind)).scheduler.queue = p.scheduler.queue ∧
        (p.step (.register kind)).scheduler.events = p.scheduler.events := by
      simp only [Pool.step, Scheduler.register]
      split <;> exact ⟨rfl, rfl⟩
    exact h.transfer hb hconfig rfl hsame.1 (by rw [executions, hsame.2]; rfl)
  | announce id =>
    by_cases hid : id ∈ p.launched
    · obtain ⟨t, ht, -⟩ := Scheduler.status?_eq_some_iff.mp
        ((h.balanced.running.mem_iff id).mp (List.mem_append_left _ hid))
      refine h.transfer hb hconfig ?_ ?_ ?_
      · simp only [Pool.step, if_pos hid]
      · simp only [Pool.step, if_pos hid, Scheduler.announce, ht]
        rfl
      · simp only [Pool.step, Scheduler.announce, ht, executions, Scheduler.emit, h.launched_eq hid]
        simp [TaskEvent.begun?]
    · simpa only [Pool.step, if_neg hid] using h
  | finish id ending =>
    by_cases hid : id ∈ p.executing
    · obtain ⟨t, ht, -⟩ := h.balanced.running_of_executing hid
      obtain ⟨v, rfl⟩ : ∃ v, ending = .answered (.output v) := by
        unfold Action.isSmooth at ha
        split at ha <;> simp_all
      refine h.transfer hb hconfig ?_ ?_ ?_ <;> simp only [Pool.step, if_pos hid, Scheduler.finish_eq ht]
      · simp [Ending.outcome, Scheduler.pause?, Scheduler.settled]
      · simp [executions, Ending.outcome, Scheduler.notice, TaskEvent.begun?]
    · simpa only [Pool.step, if_neg hid] using h
  | requeue b =>
    have hnone : b ∉ p.resting := by simp [h.resting]
    simpa only [Pool.step, if_neg hnone] using h

end InTurn

/-- What each action of a kind keeps, every run of such actions keeps. -/
theorem run_induction_of {P : Pool ι ω → Prop} {Q : Action ι ω → Prop} (hstep : ∀ p a, Q a → P p → P (p.step a))
    (h : P p) {actions : List (Action ι ω)} (hactions : ∀ a ∈ actions, Q a) : P (p.run actions) := by
  induction actions generalizing p with
  | nil => exact h
  | cons a rest ih =>
    obtain ⟨ha, hrest⟩ := List.forall_mem_cons.mp hactions
    exact ih (hstep p a ha h) hrest

/-- The start of a scheduler to which tasks have been submitted. -/
theorem Submitted.inTurn (h : p.Submitted) (hb : p.Balanced) (hone : p.scheduler.concurrency = 1) :
    (p.step .start).InTurn p.scheduler.byPriority := by
  let le (a b : Task ι ω × Nat) : Bool := decide (b.1.priority ≤ a.1.priority)
  have htrans : ∀ a b c : Task ι ω × Nat, le a b → le b c → le a c := by
    intro a b c hab hbc
    simp only [le, decide_eq_true_eq, Priority.le_iff_rank] at hab hbc ⊢
    omega
  have htotal : ∀ a b : Task ι ω × Nat, le a b || le b a := by
    intro a b
    simp only [le, Bool.or_eq_true, decide_eq_true_eq, Priority.le_iff_rank]
    omega
  have hplaces : p.scheduler.tasks.zipIdx.Pairwise fun a b => a.2 < b.2 := by
    rw [← List.pairwise_map, List.zipIdx_map_snd]
    exact List.pairwise_lt_range'
  have hsorted := pairwise_mergeSort_stable htrans htotal hplaces
  refine ⟨balanced_step p .start hb, hone, h.resting,
    (p.scheduler.tasks.zipIdx.mergeSort le).map fun x => ⟨x.2, x.1.priority, x.2 + 1⟩, ?_, ?_, ?_⟩
  · change List.Perm _ p.scheduler.queue
    rw [h.queue]
    exact (List.mergeSort_perm _ le).map _
  · rw [List.pairwise_map]
    refine hsorted.imp ?_
    intro a b hab
    simp only [le, decide_eq_true_eq, Priority.le_iff_rank] at hab
    rw [QueueEntry.precedes_iff]
    dsimp only
    omega
  · have hbegun : (p.step .start).executions = [] := by
      change p.scheduler.events.filterMap _ = []
      rw [h.events]
      rfl
    have hlaunched : (p.step .start).launched = [] := h.launched
    rw [hbegun, hlaunched, List.map_map]
    rfl

/-- Once nothing runs and nothing waits, the executions make up the whole order. -/
theorem InTurn.executions_eq (h : p.InTurn order) (hrunning : p.scheduler.isRunning = true)
    (hsettled : p.scheduler.isSettled = true) : p.executions = order := by
  simp only [Scheduler.isSettled, hrunning, Bool.and_eq_true, beq_iff_eq, Bool.or_eq_true, List.isEmpty_iff,
    Bool.not_true, Bool.false_eq_true, or_false] at hsettled
  obtain ⟨⟨hidle, -⟩, hempty⟩ := hsettled
  obtain ⟨waiting, hperm, -, horder⟩ := h.waiting
  rw [h.balanced.inFlight_eq, List.length_append, Nat.add_eq_zero_iff, List.length_eq_zero_iff] at hidle
  rw [hempty] at hperm
  rw [← horder, hidle.1, hperm.eq_nil]
  simp

theorem InTurn.executions_prefix (h : p.InTurn order) : p.executions <+: order := by
  obtain ⟨waiting, -, -, horder⟩ := h.waiting
  exact ⟨p.launched ++ waiting.map (·.task), by rw [← horder, List.append_assoc]⟩

theorem inTurn_run (config : SchedulerConfig) (hone : config.maxConcurrency ≤ 1)
    {submissions later : List (Action ι ω)} (hsubmissions : ∀ a ∈ submissions, a.isSubmission = true)
    (hlater : ∀ a ∈ later, a.isSmooth = true) :
    ((initial config).run (submissions ++ .start :: later)).InTurn
      ((initial config).run submissions).scheduler.byPriority := by
  have hempty : (initial config : Pool ι ω).Submitted := ⟨rfl, rfl, rfl, rfl, rfl⟩
  have hsubmitted : ((initial config).run submissions).Submitted :=
    run_induction_of (P := Submitted) (fun _ _ ha h => h.step ha) hempty hsubmissions
  have hslots : ((initial config : Pool ι ω).run submissions).scheduler.concurrency = 1 := by
    rw [Scheduler.concurrency, config_run]
    omega
  rw [run, List.foldl_append, List.foldl_cons]
  exact run_induction_of (P := fun p => p.InTurn _) (fun _ _ ha h => h.step ha)
    (hsubmitted.inTurn (balanced_run config submissions) hslots) hlater

end Pool

/-- In every state of every run, the task that is served next has the highest priority of all that wait, and among
its equals it entered the queue first: it was submitted or came back from its delay before them, whatever its
priority was then. If nothing is served, then nothing waits or no slot is free. With one task at a time, all of them
submitted before the start, none changed and none failing, executions begin in the stable order by decreasing
priority, and once the scheduler has settled all of them have. -/
theorem dispatch_order {ι ω : Type} (config : SchedulerConfig) (actions : List (Action ι ω)) :
    let p := (Pool.initial config).run actions
    (∀ id, p.scheduler.dispatch.1 = some id → p.IsForemost ((Pool.initial config).entries actions) id) ∧
      (p.scheduler.dispatch.1 = none →
        p.scheduler.queue = [] ∨ p.scheduler.concurrency ≤ p.scheduler.inFlight) ∧
      ∀ submissions later, actions = submissions ++ .start :: later → config.maxConcurrency ≤ 1 →
        (∀ a ∈ submissions, a.isSubmission = true) → (∀ a ∈ later, a.isSmooth = true) →
        let order := ((Pool.initial config).run submissions).scheduler.byPriority
        p.executions <+: order ∧
          (p.scheduler.isRunning = true → p.scheduler.isSettled = true → p.executions = order) := by
  intro p
  have hbalanced : p.Balanced := Pool.balanced_run config actions
  refine ⟨fun id h => Pool.isForemost_of_dispatch hbalanced (Pool.numbered_run config actions) h,
    fun h => ?_, ?_⟩
  · obtain ⟨-, hnothing⟩ | ⟨e, t, -, -, -, hdispatch, -⟩ := Pool.step_dispatch_cases hbalanced
    · exact hnothing
    · rw [hdispatch] at h
      cases h
  · rintro submissions later rfl hone hsubmissions hlater order
    have hturn : p.InTurn order := Pool.inTurn_run config hone hsubmissions hlater
    exact ⟨hturn.executions_prefix, hturn.executions_eq⟩

/-- Three tasks, of which the second is served first, fails and comes back behind the others with their priority;
the first one has got this priority meanwhile. -/
def overtakenActions : List (Action Unit Nat) :=
  [.register "sum", .add "sum" () { priority := .low }, .add "sum" () { priority := .high },
   .add "sum" () { priority := .high }, .start, .dispatch, .announce 1, .finish 1 .timedOut,
   .updatePriority 0 .critical, .requeue ⟨1, 1000, .critical⟩, .updatePriority 2 .critical]

/-- Three tasks, the first of them with a lower priority than the others. -/
def threeSubmissions : List (Action Unit Nat) :=
  [.register "sum", .add "sum" () { priority := .low }, .add "sum" () { priority := .high },
   .add "sum" () { priority := .high }]

/-- Executions of three tasks, one after the other. -/
def threeExecutions : List (Action Unit Nat) :=
  [.dispatch, .announce 1, .finish 1 (.answered (.output 7)), .dispatch, .announce 2,
   .finish 2 (.answered (.output 8)), .dispatch, .announce 0, .finish 0 (.answered (.output 9))]

/-- Of three tasks with the highest priority the one that was submitted first is served, though it had the lowest
then, and not the one whose failure put it behind; and tasks that run one by one run by priority, equals as
submitted. -/
theorem overtaken_task_is_served :
    let config : SchedulerConfig := { maxConcurrency := 1 }
    let p := (Pool.initial config).run overtakenActions
    (p.scheduler.dispatch.1 = some 0 ∧ (Pool.initial config).entries overtakenActions = [0, 1, 2, 1] ∧
      p.IsForemost [0, 1, 2, 1] 0) ∧
      ((Pool.initial config).run (threeSubmissions ++ .start :: threeExecutions)).executions = [1, 2, 0] ∧
      ((Pool.initial config).run threeSubmissions).scheduler.byPriority = [1, 2, 0] := by
  intro config p
  have hlog : (Pool.initial config).entries overtakenActions = [0, 1, 2, 1] := by decide +kernel
  have hserved : p.scheduler.dispatch.1 = some 0 := by decide +kernel
  obtain ⟨hforemost, -, -⟩ := dispatch_order config overtakenActions
  have hexecutions :
      ((Pool.initial config).run (threeSubmissions ++ .start :: threeExecutions)).executions = [1, 2, 0] := by
    decide +kernel
  obtain ⟨-, -, hturns⟩ := dispatch_order config (threeSubmissions ++ .start :: threeExecutions)
  have horder := (hturns threeSubmissions threeExecutions rfl (by decide) (by decide) (by decide)).2
    (by decide +kernel) (by decide +kernel)
  have hnext := hforemost 0 hserved
  rw [hlog] at hnext
  exact ⟨⟨hserved, hlog, hnext⟩, hexecutions, horder.symm.trans hexecutions⟩

end CodeAudit
