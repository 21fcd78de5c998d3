import CodeAudit.Proofs.Tasks.Pool
import CodeAudit.Proofs.Tasks.Transitions

/-! The books of a scheduler: in every state of every run the queue lists exactly the pending tasks
with their priorities, and the counters count the running and the retrying ones. A scheduler that
runs and is settled has therefore brought every task to its end. -/
namespace CodeAudit

namespace Scheduler

variable {ι ω : Type} {s s' : Scheduler ι ω}

/-- The queue and the counters tell the statuses of the tasks. -/
structure Consistent (s : Scheduler ι ω) : Prop where
  queue_nodup : (s.queue.map (·.task)).Nodup
  mem_queue_iff : ∀ id, id ∈ s.queue.map (·.task) ↔ ∃ t, s.task? id = some t ∧ t.status = .pending
  queue_priority : ∀ e ∈ s.queue, ∃ t, s.task? e.task = some t ∧ e.priority = t.priority
  inFlight_eq : s.inFlight = s.tasks.countP fun t => t.status = .running
  inFlight_le : s.inFlight ≤ max 1 s.config.maxConcurrency
  backingOff_eq : s.backingOff = s.tasks.countP fun t => t.status = .retrying

/-- The priority is that of the task, if there is such a task. -/
def Ranks (s : Scheduler ι ω) (id : Nat) (p : Priority) : Prop := ∀ t, s.task? id = some t → p = t.priority

theorem Ranks.of_set {id k : Nat} {p : Priority} {t' : Task ι ω} (h : s.Ranks k p)
    (hs : s'.tasks = s.tasks.set id t') (hid : id < s.tasks.length) (hne : k ≠ id) : s'.Ranks k p := by
  intro t ht
  rw [task?_of_set hs hid, if_neg hne] at ht
  exact h t ht

theorem Ranks.of_append {k : Nat} {p : Priority} {t' : Task ι ω} (h : s.Ranks k p)
    (hs : s'.tasks = s.tasks ++ [t']) (hne : k ≠ s.tasks.length) : s'.Ranks k p := by
  intro t ht
  rw [task?_of_append hs, if_neg hne] at ht
  exact h t ht

theorem task?_length (s : Scheduler ι ω) : s.task? s.tasks.length = none :=
  List.getElem?_eq_none (Nat.le_refl _)

theorem filter_queue_of_notMem {id : Nat} (h : id ∉ s.queue.map (·.task)) :
    (s.queue.filter fun e => e.task ≠ id) = s.queue := by
  refine List.filter_eq_self.mpr fun e he => ?_
  simp [ne_of_notMem_map he h]

end Scheduler

namespace Pool

variable {ι ω : Type} {p : Pool ι ω}

/-- The queue, the work under way and the delays are the rosters of three statuses, and the counters
are their lengths. -/
structure Balanced (p : Pool ι ω) : Prop where
  kinds : ∀ t ∈ p.scheduler.tasks, t.kind ∈ p.scheduler.kinds
  pending : p.scheduler.Roster .pending (p.scheduler.queue.map (·.task))
  running : p.scheduler.Roster .running (p.launched ++ p.executing)
  retrying : p.scheduler.Roster .retrying (p.resting.map (·.task))
  queue_ranks : ∀ e ∈ p.scheduler.queue, p.scheduler.Ranks e.task e.priority
  resting_ranks : ∀ b ∈ p.resting, p.scheduler.Ranks b.task b.priority
  inFlight_eq : p.scheduler.inFlight = (p.launched ++ p.executing).length
  inFlight_le : p.scheduler.inFlight ≤ p.scheduler.concurrency
  backingOff_eq : p.scheduler.backingOff = p.resting.length

namespace Balanced

theorem initial (config : SchedulerConfig) : (Pool.initial config : Pool ι ω).Balanced where
  kinds := by simp [Pool.initial]
  pending := ⟨List.nodup_nil, by simp [Pool.initial, Scheduler.status?, Scheduler.task?]⟩
  running := ⟨List.nodup_nil, by simp [Pool.initial, Scheduler.status?, Scheduler.task?]⟩
  retrying := ⟨List.nodup_nil, by simp [Pool.initial, Scheduler.status?, Scheduler.task?]⟩
  queue_ranks := by simp [Pool.initial]
  resting_ranks := by simp [Pool.initial]
  inFlight_eq := rfl
  inFlight_le := Nat.zero_le _
  backingOff_eq := rfl

theorem kind_of_task? (h : p.Balanced) {id : Nat} {t : Task ι ω} (ht : p.scheduler.task? id = some t) :
    t.kind ∈ p.scheduler.kinds := h.kinds t (List.mem_of_getElem? ht)

/-- A queued task is known and its kind is handled, so that it is never passed over. -/
theorem queue_known (h : p.Balanced) :
    ∀ e ∈ p.scheduler.queue, ∃ t, p.scheduler.task? e.task = some t ∧ t.kind ∈ p.scheduler.kinds := by
  intro e he
  obtain ⟨t, ht, _⟩ := Scheduler.status?_eq_some_iff.mp
    ((h.pending.mem_iff e.task).mp (List.mem_map_of_mem he))
  exact ⟨t, ht, h.kind_of_task? ht⟩

theorem running_of_executing (h : p.Balanced) {id : Nat} (hid : id ∈ p.executing) :
    ∃ t, p.scheduler.task? id = some t ∧ t.status = .running :=
  Scheduler.status?_eq_some_iff.mp ((h.running.mem_iff id).mp (List.mem_append_right _ hid))

theorem retrying_of_resting (h : p.Balanced) {b : Backoff} (hb : b ∈ p.resting) :
    ∃ t, p.scheduler.task? b.task = some t ∧ t.status = .retrying :=
  Scheduler.status?_eq_some_iff.mp ((h.retrying.mem_iff b.task).mp (List.mem_map_of_mem hb))

/-- Nothing but flags, events and the order of the work under way has changed. -/
theorem transfer {p' : Pool ι ω} (h : p.Balanced) (htasks : p'.scheduler.tasks = p.scheduler.tasks)
    (hkinds : p.scheduler.kinds ⊆ p'.scheduler.kinds) (hqueue : p'.scheduler.queue = p.scheduler.queue)
    (hconfig : p'.scheduler.config = p.scheduler.config)
    (hinFlight : p'.scheduler.inFlight = p.scheduler.inFlight)
    (hbackingOff : p'.scheduler.backingOff = p.scheduler.backingOff) (hresting : p'.resting = p.resting)
    (hwork : (p'.launched ++ p'.executing).Perm (p.launched ++ p.executing)) : p'.Balanced := by
  have hstatus := Scheduler.status?_congr htasks
  have hranks : ∀ id q, p.scheduler.Ranks id q → p'.scheduler.Ranks id q := by
    intro id q hq t ht
    exact hq t (by simpa [Scheduler.task?, htasks] using ht)
  exact {
    kinds := fun t ht => hkinds (h.kinds t (htasks ▸ ht))
    pending := by rw [hqueue]; exact h.pending.congr hstatus
    running := (h.running.congr hstatus).perm hwork
    retrying := by rw [hresting]; exact h.retrying.congr hstatus
    queue_ranks := fun e he => hranks _ _ (h.queue_ranks e (hqueue ▸ he))
    resting_ranks := fun b hb => hranks _ _ (h.resting_ranks b (hresting ▸ hb))
    inFlight_eq := by rw [hinFlight, hwork.length_eq]; exact h.inFlight_eq
    inFlight_le := by rw [hinFlight, Scheduler.concurrency, hconfig]; exact h.inFlight_le
    backingOff_eq := by rw [hbackingOff, hresting]; exact h.backingOff_eq }

theorem register (h : p.Balanced) (kind : String) : (p.step (.register kind)).Balanced := by
  simp only [step, Scheduler.register]
  split
  · exact h
  · exact h.transfer rfl (List.subset_append_left _ _) rfl rfl rfl rfl rfl (.refl _)

theorem announce (h : p.Balanced) (id : Nat) : (p.step (.announce id)).Balanced := by
  simp only [step]
  split
  case isTrue hid =>
    have hwork : (p.launched.erase id ++ (p.executing ++ [id])).Perm (p.launched ++ p.executing) := by
      rw [← List.append_assoc]
      exact (List.perm_append_singleton id _).trans ((List.perm_cons_erase hid).symm.append_right _)
    unfold Scheduler.announce
    split
    · exact h.transfer rfl (List.Subset.refl _) rfl rfl rfl rfl rfl hwork
    · exact h.transfer rfl (List.Subset.refl _) rfl rfl rfl rfl rfl hwork
  case isFalse => exact h

theorem add (h : p.Balanced) (kind : String) (input : ι) (options : TaskOptions) :
    (p.step (.add kind input options)).Balanced := by
  simp only [step]
  split
  case h_2 => exact h
  case h_1 id s' hadd =>
    obtain ⟨-, hkind, hr⟩ := Scheduler.add_ok_iff.mp hadd
    obtain ⟨-, hs'⟩ := Prod.mk.inj hr
    have hnone : p.scheduler.status? p.scheduler.tasks.length = none := by
      simp [Scheduler.status?, Scheduler.task?_length]
    have hfresh : p.scheduler.tasks.length ∉ p.scheduler.queue.map (·.task) := by
      simp [h.pending.mem_iff, hnone]
    have hrest : p.scheduler.tasks.length ∉ p.resting.map (·.task) := by
      simp [h.retrying.mem_iff, hnone]
    rw [Scheduler.filter_queue_of_notMem hfresh] at hs'
    have htasks : s'.tasks = p.scheduler.tasks ++ [p.scheduler.newTask kind input options] := by rw [hs']
    have hqueue : s'.queue = p.scheduler.queue ++
        [⟨p.scheduler.tasks.length, options.priority, p.scheduler.sequence + 1⟩] := by rw [hs']
    have hstatus := Scheduler.status?_of_append htasks
    exact {
      kinds := by
        intro t ht
        rw [htasks, List.mem_append, List.mem_singleton] at ht
        rw [hs']
        rcases ht with ht | rfl
        · exact h.kinds t ht
        · exact hkind
      pending := by
        rw [hqueue, List.map_append]
        exact h.pending.insert hstatus (by simp [hnone])
      running := h.running.keep hstatus (by simp [hnone]) (by simp [Scheduler.newTask])
      retrying := h.retrying.keep hstatus (by simp [hnone]) (by simp [Scheduler.newTask])
      queue_ranks := by
        intro e he
        rw [hqueue, List.mem_append, List.mem_singleton] at he
        rcases he with he | rfl
        · exact (h.queue_ranks e he).of_append htasks (ne_of_notMem_map he hfresh)
        · intro t ht
          rw [Scheduler.task?_of_append htasks, if_pos rfl, Option.some.injEq] at ht
          rw [← ht]
          rfl
      resting_ranks := fun b hb => (h.resting_ranks b hb).of_append htasks (ne_of_notMem_map hb hrest)
      inFlight_eq := by rw [hs']; exact h.inFlight_eq
      inFlight_le := by rw [hs']; exact h.inFlight_le
      backingOff_eq := by rw [hs']; exact h.backingOff_eq }

/-- One task has been replaced. Entries of the queue and delays are either old ones of other tasks
or new ones of this task. -/
theorem of_set {p' : Pool ι ω} (h : p.Balanced) {id : Nat} {t t' : Task ι ω}
    (ht : p.scheduler.task? id = some t) (htasks : p'.scheduler.tasks = p.scheduler.tasks.set id t')
    (hkind : t'.kind = t.kind) (hkinds : p'.scheduler.kinds = p.scheduler.kinds)
    (pending : p'.scheduler.Roster .pending (p'.scheduler.queue.map (·.task)))
    (running : p'.scheduler.Roster .running (p'.launched ++ p'.executing))
    (retrying : p'.scheduler.Roster .retrying (p'.resting.map (·.task)))
    (hqueue : ∀ e ∈ p'.scheduler.queue,
      (e ∈ p.scheduler.queue ∧ e.task ≠ id) ∨ (e.task = id ∧ e.priority = t'.priority))
    (hresting : ∀ b ∈ p'.resting, (b ∈ p.resting ∧ b.task ≠ id) ∨ (b.task = id ∧ b.priority = t'.priority))
    (inFlight_eq : p'.scheduler.inFlight = (p'.launched ++ p'.executing).length)
    (inFlight_le : p'.scheduler.inFlight ≤ p'.scheduler.concurrency)
    (backingOff_eq : p'.scheduler.backingOff = p'.resting.length) : p'.Balanced := by
  have hlt := Scheduler.lt_length_of_task? ht
  have hranks : ∀ q, q = t'.priority → p'.scheduler.Ranks id q := by
    intro q hq u hu
    rw [Scheduler.task?_of_set htasks hlt, if_pos rfl, Option.some.injEq] at hu
    rw [hq, hu]
  refine ⟨?_, pending, running, retrying, ?_, ?_, inFlight_eq, inFlight_le, backingOff_eq⟩
  · intro u hu
    rw [htasks] at hu
    rw [hkinds]
    rcases List.mem_or_eq_of_mem_set hu with hold | rfl
    · exact h.kinds u hold
    · rw [hkind]
      exact h.kind_of_task? ht
  · intro e he
    rcases hqueue e he with ⟨hold, hne⟩ | ⟨rfl, hq⟩
    · exact (h.queue_ranks e hold).of_set htasks hlt hne
    · exact hranks _ hq
  · intro b hb
    rcases hresting b hb with ⟨hold, hne⟩ | ⟨rfl, hq⟩
    · exact (h.resting_ranks b hold).of_set htasks hlt hne
    · exact hranks _ hq

theorem updatePriority (h : p.Balanced) (id : Nat) (q : Priority) :
    (p.step (.updatePriority id q)).Balanced := by
  obtain ⟨e, he, -⟩ | ⟨t, ht, hstatus, hq⟩ := p.scheduler.updatePriority_cases id q
  · simp only [step, he]
    exact h
  have hpending : p.scheduler.status? id = some t.status := Scheduler.status?_of_task? ht
  have hplace : id ∈ p.scheduler.queue.map (·.task) :=
    (h.pending.mem_iff id).mpr (hpending.trans (congrArg some hstatus))
  obtain ⟨-, hupdate⟩ | hmissing := hq
  case inr => exact False.elim (hmissing hplace)
  simp only [step, hupdate]
  generalize hs' : ({ p.scheduler with tasks := _, queue := _ } : Scheduler ι ω) = s'
  have htasks : s'.tasks = p.scheduler.tasks.set id { t with priority := q } := by rw [← hs']
  have hqueue : s'.queue =
      p.scheduler.queue.map fun e => if e.task = id then { e with priority := q } else e := by rw [← hs']
  have hsame : s'.status? = p.scheduler.status? := by
    rw [Scheduler.status?_of_set htasks (Scheduler.lt_length_of_task? ht), ← hpending]
    exact Function.update_eq_self id _
  have hplaces : s'.queue.map (·.task) = p.scheduler.queue.map (·.task) := by
    rw [hqueue, List.map_map]
    refine List.map_congr_left fun e _ => ?_
    simp only [Function.comp_apply]
    split <;> rfl
  have hrest : id ∉ p.resting.map (·.task) := h.retrying.notMem ht (by simp [hstatus])
  refine h.of_set ht htasks rfl (by rw [← hs']) ?_ (h.running.congr hsame) (h.retrying.congr hsame) ?_
    (fun b hb => .inl ⟨hb, ne_of_notMem_map hb hrest⟩) ?_ ?_ ?_
  · rw [hplaces]
    exact h.pending.congr hsame
  · intro e he
    rw [hqueue] at he
    obtain ⟨d, hd, rfl⟩ := List.mem_map.mp he
    by_cases hid : d.task = id
    · exact .inr (by simp [hid])
    · exact .inl (by simp [hid, hd])
  · rw [← hs']
    exact h.inFlight_eq
  · rw [← hs']
    exact h.inFlight_le
  · rw [← hs']
    exact h.backingOff_eq

/-- A dispatched task goes from the queue to the work under way. -/
theorem dispatch (h : p.Balanced) : (p.step .dispatch).Balanced := by
  obtain hnone | ⟨e, t, hslot, hfirst, ht, hdispatch⟩ := Scheduler.dispatch_cases h.queue_known
  · simp only [step, hnone]
    exact h
  have hmem := QueueEntry.mem_of_first? hfirst
  have hpending : p.scheduler.status? e.task = some .pending :=
    (h.pending.mem_iff e.task).mp (List.mem_map_of_mem hmem)
  have hstatus : t.status = .pending := by
    rw [Scheduler.status?_of_task? ht] at hpending
    exact Option.some.inj hpending
  simp only [step, hdispatch]
  generalize hs' : ({ p.scheduler with queue := _ } : Scheduler ι ω).launch e.task t = s'
  have htasks : s'.tasks =
      p.scheduler.tasks.set e.task { t with status := .running, attempts := t.attempts + 1 } := by
    rw [← hs']; rfl
  have hqueue : s'.queue = p.scheduler.queue.erase e := by rw [← hs']; rfl
  have hinFlight : s'.inFlight = p.scheduler.inFlight + 1 := by rw [← hs']; rfl
  have hupdate := Scheduler.status?_of_set htasks (Scheduler.lt_length_of_task? ht)
  have hplaces : s'.queue.map (·.task) = (p.scheduler.queue.map (·.task)).erase e.task := by
    rw [hqueue]
    exact map_erase_of_nodup _ h.pending.nodup hmem
  have hgone : e.task ∉ s'.queue.map (·.task) := by
    rw [hplaces]
    exact h.pending.nodup.not_mem_erase
  have hrest : e.task ∉ p.resting.map (·.task) := h.retrying.notMem ht (by simp [hstatus])
  have hwork : (p.launched ++ [e.task] ++ p.executing).Perm (p.launched ++ p.executing ++ [e.task]) := by
    rw [List.append_assoc, List.append_assoc]
    exact List.perm_append_comm.append_left _
  refine h.of_set ht htasks rfl (by rw [← hs']; rfl) ?_ ?_ ?_ ?_
    (fun b hb => .inl ⟨hb, ne_of_notMem_map hb hrest⟩) ?_ ?_ ?_
  · rw [hplaces]
    exact h.pending.remove hupdate (by simp)
  · exact (h.running.insert hupdate (by simp [hpending])).perm hwork
  · exact h.retrying.keep hupdate (by simp [hpending]) (by simp)
  · exact fun d hd => .inl ⟨List.mem_of_mem_erase (hqueue ▸ hd), ne_of_notMem_map hd hgone⟩
  · rw [hwork.length_eq, List.length_append, List.length_singleton, hinFlight, h.inFlight_eq]
  · rw [hinFlight, ← hs']
    exact hslot
  · rw [← hs']
    exact h.backingOff_eq

/-- A task whose execution ends leaves the work under way; it may start a delay. -/
theorem finish (h : p.Balanced) (id : Nat) (ending : Ending ω) : (p.step (.finish id ending)).Balanced := by
  by_cases hid : id ∈ p.executing
  case neg => simpa only [step, if_neg hid] using h
  obtain ⟨t, ht, hrunning⟩ := h.running_of_executing hid
  simp only [step, if_pos hid, Scheduler.finish_eq ht]
  generalize ending.outcome (p.timeoutMs id) = o
  generalize hs' : ({ p.scheduler with tasks := _, inFlight := _, backingOff := _, events := _ } :
    Scheduler ι ω) = s'
  have htasks : s'.tasks = p.scheduler.tasks.set id (p.scheduler.settled t o) := by rw [← hs']
  have hinFlight : s'.inFlight = p.scheduler.inFlight - 1 := by rw [← hs']
  have hupdate := Scheduler.status?_of_set htasks (Scheduler.lt_length_of_task? ht)
  have hold : p.scheduler.status? id = some .running := by rw [Scheduler.status?_of_task? ht, hrunning]
  have hnew := p.scheduler.settled_status t o
  have hqueued : id ∉ p.scheduler.queue.map (·.task) := h.pending.notMem ht (by simp [hrunning])
  have hrest : id ∉ p.resting.map (·.task) := h.retrying.notMem ht (by simp [hrunning])
  have hwork : (p.launched ++ p.executing.erase id).Perm ((p.launched ++ p.executing).erase id) := by
    have hp : (p.launched ++ p.executing).Perm (id :: (p.launched ++ p.executing.erase id)) :=
      ((List.perm_cons_erase hid).append_left _).trans List.perm_middle
    exact (List.perm_cons_erase (List.mem_append_right _ hid)).symm.trans hp |>.cons_inv.symm
  have hback : s'.backingOff = p.scheduler.backingOff + (p.scheduler.pause? id t o).toList.length := by
    rw [← hs']
  refine h.of_set ht htasks (p.scheduler.settled_kind t o) (by rw [← hs']) ?_ ?_ ?_ ?_ ?_ ?_ ?_ ?_
  · rw [← hs'] at hupdate ⊢
    refine h.pending.keep hupdate (by simp [hold]) ?_
    intro he
    simp [he, TaskStatus.isFinal] at hnew
  · refine (h.running.remove hupdate ?_).perm hwork
    intro he
    simp [he, TaskStatus.isFinal] at hnew
  · by_cases hr : (p.scheduler.settled t o).status = .retrying
    · rw [hr] at hupdate
      simp only [Scheduler.pause?, if_pos hr, Option.toList_some, List.map_append, List.map_singleton]
      exact h.retrying.insert hupdate (by simp [hold])
    · simp only [Scheduler.pause?, if_neg hr, Option.toList_none, List.append_nil]
      exact h.retrying.keep hupdate (by simp [hold]) hr
  · rw [← hs']
    exact fun e he => .inl ⟨he, ne_of_notMem_map he hqueued⟩
  · intro b hb
    rcases List.mem_append.mp hb with hb | hb
    · exact .inl ⟨hb, ne_of_notMem_map hb hrest⟩
    · by_cases hr : (p.scheduler.settled t o).status = .retrying
      · simp only [Scheduler.pause?, if_pos hr, Option.toList_some, List.mem_singleton] at hb
        exact .inr (by simp [hb])
      · simp [Scheduler.pause?, hr] at hb
  · have hlen := h.inFlight_eq
    rw [hwork.length_eq, List.length_erase_of_mem (List.mem_append_right _ hid), hinFlight, hlen]
  · have hle := h.inFlight_le
    have hcap : s'.concurrency = p.scheduler.concurrency := by rw [← hs']; rfl
    rw [hinFlight, hcap]
    omega
  · rw [hback, h.backingOff_eq, List.length_append]

/-- A task whose delay runs out goes back to the queue. -/
theorem requeue (h : p.Balanced) (b : Backoff) : (p.step (.requeue b)).Balanced := by
  by_cases hb : b ∈ p.resting
  case neg => simpa only [step, if_neg hb] using h
  obtain ⟨t, ht, hretrying⟩ := h.retrying_of_resting hb
  have hqueued : b.task ∉ p.scheduler.queue.map (·.task) := h.pending.notMem ht (by simp [hretrying])
  simp only [step, if_pos hb, Scheduler.requeue_eq ht, Scheduler.filter_queue_of_notMem hqueued]
  generalize hs' : ({ p.scheduler with tasks := _, backingOff := _, queue := _, sequence := _ } :
    Scheduler ι ω) = s'
  have htasks : s'.tasks = p.scheduler.tasks.set b.task { t with status := .pending } := by rw [← hs']
  have hqueue : s'.queue = p.scheduler.queue ++ [⟨b.task, b.priority, p.scheduler.sequence + 1⟩] := by
    rw [← hs']
  have hback : s'.backingOff = p.scheduler.backingOff - 1 := by rw [← hs']
  have hupdate := Scheduler.status?_of_set htasks (Scheduler.lt_length_of_task? ht)
  have hold : p.scheduler.status? b.task = some .retrying := by rw [Scheduler.status?_of_task? ht, hretrying]
  have hplaces : (p.resting.erase b).map (·.task) = (p.resting.map (·.task)).erase b.task :=
    map_erase_of_nodup _ h.retrying.nodup hb
  have hgone : b.task ∉ (p.resting.erase b).map (·.task) := by
    rw [hplaces]
    exact h.retrying.nodup.not_mem_erase
  refine h.of_set ht htasks rfl (by rw [← hs']) ?_ ?_ ?_ ?_ ?_ ?_ ?_ ?_
  · rw [hqueue, List.map_append]
    exact h.pending.insert hupdate (by simp [hold])
  · exact h.running.keep hupdate (by simp [hold]) (by simp)
  · rw [hplaces]
    exact h.retrying.remove hupdate (by simp)
  · intro e he
    rw [hqueue, List.mem_append, List.mem_singleton] at he
    rcases he with he | rfl
    · exact .inl ⟨he, ne_of_notMem_map he hqueued⟩
    · exact .inr ⟨rfl, h.resting_ranks b hb t ht⟩
  · exact fun c hc => .inl ⟨List.mem_of_mem_erase hc, ne_of_notMem_map hc hgone⟩
  · rw [← hs']
    exact h.inFlight_eq
  · rw [← hs']
    exact h.inFlight_le
  · rw [hback, h.backingOff_eq, List.length_erase_of_mem hb]

end Balanced

/-- Every action keeps the books balanced. -/
theorem balanced_step (p : Pool ι ω) (a : Action ι ω) (h : p.Balanced) : (p.step a).Balanced := by
  cases a with
  | register kind => exact h.register kind
  | add kind input options => exact h.add kind input options
  | updatePriority id q => exact h.updatePriority id q
  | start => exact h.transfer rfl (List.Subset.refl _) rfl rfl rfl rfl rfl (.refl _)
  | stop => exact h.transfer rfl (List.Subset.refl _) rfl rfl rfl rfl rfl (.refl _)
  | dispatch => exact h.dispatch
  | announce id => exact h.announce id
  | finish id ending => exact h.finish id ending
  | requeue b => exact h.requeue b

/-- The settings never change. -/
theorem config_step (h : p.Balanced) (a : Action ι ω) : (p.step a).scheduler.config = p.scheduler.config := by
  cases a with
  | register kind =>
    simp only [step, Scheduler.register]
    split <;> rfl
  | add kind input options =>
    simp only [step]
    split
    case h_1 k s' hadd =>
      obtain ⟨-, -, hr⟩ := Scheduler.add_ok_iff.mp hadd
      rw [(Prod.mk.inj hr).2]
    case h_2 => rfl
  | updatePriority id q =>
    simp only [step, Scheduler.updatePriority]
    split
    · rfl
    · split
      · rfl
      · split <;> rfl
  | start => rfl
  | stop => rfl
  | dispatch =>
    obtain hnone | ⟨e, t, -, -, -, hdispatch⟩ := Scheduler.dispatch_cases h.queue_known
    · simp only [step, hnone]
    · simp only [step, hdispatch]
      rfl
  | announce id =>
    simp only [step, Scheduler.announce]
    split
    · split <;> rfl
    · rfl
  | finish id ending =>
    by_cases hid : id ∈ p.executing
    · obtain ⟨t, ht, _⟩ := h.running_of_executing hid
      simp only [step, if_pos hid, Scheduler.finish_eq ht]
    · simp only [step, if_neg hid]
  | requeue b =>
    by_cases hb : b ∈ p.resting
    · obtain ⟨t, ht, _⟩ := h.retrying_of_resting hb
      simp only [step, if_pos hb, Scheduler.requeue_eq ht]
    · simp only [step, if_neg hb]

theorem balanced_run (config : SchedulerConfig) (actions : List (Action ι ω)) :
    ((initial config).run actions).Balanced :=
  run_induction balanced_step (.initial config) actions

theorem config_run (config : SchedulerConfig) (actions : List (Action ι ω)) :
    ((initial config).run actions).scheduler.config = config := by
  have h := run_induction (P := fun p => p.Balanced ∧ p.scheduler.config = config)
    (fun p a hp => ⟨balanced_step p a hp.1, (config_step hp.1 a).trans hp.2⟩)
    (p := (initial config : Pool ι ω)) ⟨.initial config, rfl⟩ actions
  exact h.2

theorem Balanced.consistent (h : p.Balanced) : p.scheduler.Consistent where
  queue_nodup := h.pending.nodup
  mem_queue_iff id := (h.pending.mem_iff id).trans Scheduler.status?_eq_some_iff
  queue_priority e he := by
    obtain ⟨t, ht, _⟩ := h.queue_known e he
    exact ⟨t, ht, h.queue_ranks e he t ht⟩
  inFlight_eq := h.inFlight_eq.trans h.running.length_eq
  inFlight_le := h.inFlight_le
  backingOff_eq := by
    rw [h.backingOff_eq, ← h.retrying.length_eq, List.length_map]

end Pool

/-- With consistent books, a scheduler that runs is settled only if all tasks have come to an end. -/
theorem Scheduler.Consistent.isFinal_of_isSettled {ι ω : Type} {s : Scheduler ι ω} (h : s.Consistent)
    (hrunning : s.isRunning = true) (hsettled : s.isSettled = true) : ∀ t ∈ s.tasks, t.status.isFinal = true := by
  simp only [isSettled, hrunning, Bool.and_eq_true, beq_iff_eq, Bool.or_eq_true, List.isEmpty_iff,
    Bool.not_true, Bool.false_eq_true, or_false] at hsettled
  obtain ⟨⟨hnone, hidle⟩, hempty⟩ := hsettled
  intro t ht
  cases hst : t.status with
  | pending =>
    obtain ⟨id, hid⟩ := List.mem_iff_getElem?.mp ht
    have := (h.mem_queue_iff id).mpr ⟨t, hid, hst⟩
    simp [hempty] at this
  | running =>
    have := List.countP_eq_zero.mp (h.inFlight_eq.symm.trans hnone) t ht
    simp [hst] at this
  | retrying =>
    have := List.countP_eq_zero.mp (h.backingOff_eq.symm.trans hidle) t ht
    simp [hst] at this
  | completed => rfl
  | failed => rfl

/-- The books of a scheduler are consistent in every state of every run: the queue holds the pending
tasks, each once and with its priority, and the counters count the running tasks, which are never
more than the settings allow, and the retrying ones. A scheduler that runs and is settled has
completed or failed every task. -/
theorem scheduler_books_consistent {ι ω : Type} (config : SchedulerConfig) (actions : List (Action ι ω)) :
    let s := ((Pool.initial config).run actions).scheduler
    s.Consistent ∧ s.inFlight ≤ max 1 config.maxConcurrency ∧
      (s.isRunning = true → s.isSettled = true → ∀ t ∈ s.tasks, t.status = .completed ∨ t.status = .failed) := by
  intro s
  have hconsistent : s.Consistent := (Pool.balanced_run config actions).consistent
  refine ⟨hconsistent, ?_, ?_⟩
  · have hle := hconsistent.inFlight_le
    rwa [show s.config = config from Pool.config_run config actions] at hle
  · intro hrunning hsettled t ht
    have hfinal := hconsistent.isFinal_of_isSettled hrunning hsettled t ht
    cases hst : t.status <;> simp [hst, TaskStatus.isFinal] at hfinal ⊢

end CodeAudit
