import CodeAudit.Proofs.Tasks.Bookkeeping

/-! What the calls of clients change. A call that is refused leaves everything as it was, although a
new priority is written before the place in the queue is looked up: in a reachable state a pending task
has its place. A call that is accepted changes one task and its entry and nothing else. -/
namespace CodeAudit

/-- The member with a given key, and all others under other keys. -/
theorem exists_split_of_nodup_map {α β : Type} {f : α → β} {l : List α} {b : β} (hn : (l.map f).Nodup)
    (hb : b ∈ l.map f) :
    ∃ front a back, l = front ++ a :: back ∧ f a = b ∧ (∀ x ∈ front, f x ≠ b) ∧ ∀ x ∈ back, f x ≠ b := by
  obtain ⟨a, ha, rfl⟩ := List.mem_map.mp hb
  obtain ⟨front, back, rfl⟩ := List.append_of_mem ha
  rw [List.map_append, List.map_cons, List.nodup_append, List.nodup_cons] at hn
  obtain ⟨-, ⟨hback, -⟩, hfront⟩ := hn
  refine ⟨front, a, back, rfl, rfl, ?_, ?_⟩
  · intro x hx
    exact hfront (f x) (List.mem_map_of_mem hx) (f a) List.mem_cons_self
  · intro x hx he
    exact hback (he ▸ List.mem_map_of_mem hx)

namespace Scheduler

variable {ι ω : Type} {s s' : Scheduler ι ω} {id : Nat} {q : Priority} {t : Task ι ω}

/-- One pending task has come in, with an entry behind all others. -/
structure Gains (s s' : Scheduler ι ω) (id : Nat) (t : Task ι ω) : Prop where
  pending : t.status = .pending
  fresh : s.task? id = none
  task : s'.task? id = some t
  tasks : s'.tasks = s.tasks ++ [t]
  queue : s'.queue = s.queue ++ [⟨id, t.priority, s.sequence + 1⟩]
  rest : s' = { s with tasks := s'.tasks, queue := s'.queue, sequence := s.sequence + 1 }

/-- One pending task has a new priority, in its record and in its entry. The entry stays where it is and
keeps its sequence number. -/
structure Reranks (s s' : Scheduler ι ω) (id : Nat) (q : Priority) : Prop where
  task : ∃ t, s.task? id = some t ∧ t.status = .pending ∧ s'.task? id = some { t with priority := q }
  others : ∀ k, k ≠ id → s'.task? k = s.task? k
  entry : ∃ front p n back, s.queue = front ++ ⟨id, p, n⟩ :: back ∧ s'.queue = front ++ ⟨id, q, n⟩ :: back
  rest : s' = { s with tasks := s'.tasks, queue := s'.queue }

theorem add_error_iff {kind : String} {input : ι} {options : TaskOptions} {e : QueueError} :
    s.add kind input options = .error e ↔
      (s.isStopped = true ∧ e = .stopped) ∨ (s.isStopped = false ∧ kind ∉ s.kinds ∧ e = .unknownKind kind) := by
  unfold add
  cases hs : s.isStopped with
  | true => simp [eq_comm]
  | false => by_cases hk : kind ∈ s.kinds <;> simp [hk, eq_comm]

namespace Consistent

/-- The place of the next task is not in the queue yet. -/
theorem length_notMem_queue (h : s.Consistent) : s.tasks.length ∉ s.queue.map (·.task) := by
  rw [h.mem_queue_iff, task?_length]
  simp

theorem add_gains (h : s.Consistent) {kind : String} {input : ι} {options : TaskOptions}
    (hadd : s.add kind input options = .ok (id, s')) : s.Gains s' id (s.newTask kind input options) := by
  obtain ⟨-, -, hr⟩ := add_ok_iff.mp hadd
  rw [filter_queue_of_notMem h.length_notMem_queue] at hr
  obtain ⟨rfl, rfl⟩ := Prod.mk.inj hr
  exact {
    pending := rfl
    fresh := s.task?_length
    task := (task?_of_append rfl _).trans (if_pos rfl)
    tasks := rfl
    queue := rfl
    rest := rfl }

/-- A pending task has its place in the queue, so that a new priority finds it there. -/
theorem updatePriority_eq (h : s.Consistent) (ht : s.task? id = some t) (hpending : t.status = .pending) :
    s.updatePriority id q = (.ok (), { s with
      tasks := s.tasks.set id { t with priority := q }
      queue := s.queue.map fun e => if e.task = id then { e with priority := q } else e }) := by
  have hplace : id ∈ s.queue.map (·.task) := (h.mem_queue_iff id).mpr ⟨t, ht, hpending⟩
  obtain ⟨-, -, hnot⟩ | ⟨t', ht', -, ⟨-, hupdate⟩ | hmissing⟩ := s.updatePriority_cases id q
  · exact absurd hpending (hnot t ht)
  · rw [ht, Option.some.injEq] at ht'
    rw [hupdate, ht']
  · exact absurd hplace hmissing

/-- A new priority is refused for the tasks that are not pending, and only for these. -/
theorem updatePriority_error_iff (h : s.Consistent) {e : QueueError} :
    (s.updatePriority id q).1 = .error e ↔ (s.task? id = none ∧ e = .notFound id) ∨
      ∃ t, s.task? id = some t ∧ t.status ≠ .pending ∧ e = .notPending id := by
  cases ht : s.task? id with
  | none => simp [updatePriority, ht, eq_comm]
  | some t =>
    by_cases hpending : t.status = .pending
    · simp [h.updatePriority_eq ht hpending, hpending]
    · simp [updatePriority, ht, hpending, eq_comm (b := e)]

theorem updatePriority_ok_iff (h : s.Consistent) :
    (s.updatePriority id q).1 = .ok () ↔ ∃ t, s.task? id = some t ∧ t.status = .pending := by
  cases ht : s.task? id with
  | none => simp [updatePriority, ht]
  | some t =>
    by_cases hpending : t.status = .pending
    · simp [h.updatePriority_eq ht hpending, hpending]
    · simp [updatePriority, ht, hpending]

theorem updatePriority_refused (h : s.Consistent) {e : QueueError} (he : (s.updatePriority id q).1 = .error e) :
    (s.updatePriority id q).2 = s := by
  obtain ⟨_, hsame, -⟩ | ⟨t, ht, hpending, -⟩ := s.updatePriority_cases id q
  · rw [hsame]
  · rw [h.updatePriority_eq ht hpending] at he
    cases he

theorem updatePriority_reranks (h : s.Consistent) (hok : (s.updatePriority id q).1 = .ok ()) :
    s.Reranks (s.updatePriority id q).2 id q := by
  obtain ⟨t, ht, hpending⟩ := h.updatePriority_ok_iff.mp hok
  rw [h.updatePriority_eq ht hpending]
  generalize hs' : ({ s with tasks := _, queue := _ } : Scheduler ι ω) = s'
  have htasks : s'.tasks = s.tasks.set id { t with priority := q } := by rw [← hs']
  have hfind := task?_of_set htasks (lt_length_of_task? ht)
  refine ⟨⟨t, ht, hpending, (hfind id).trans (if_pos rfl)⟩, fun k hk => (hfind k).trans (if_neg hk), ?_,
    by rw [← hs']⟩
  have hplace : id ∈ s.queue.map (·.task) := (h.mem_queue_iff id).mpr ⟨t, ht, hpending⟩
  obtain ⟨front, ⟨k, p, n⟩, back, hqueue, rfl, hfront, hback⟩ := exists_split_of_nodup_map h.queue_nodup hplace
  refine ⟨front, p, n, back, hqueue, ?_⟩
  -- The entries in front of it and behind it are of other tasks, so the rewriting leaves them as they are.
  have hkept : ∀ l : List QueueEntry, (∀ e ∈ l, e.task ≠ k) →
      (l.map fun e => if e.task = k then { e with priority := q } else e) = l :=
    fun l hl => (List.map_congr_left fun e he => if_neg (hl e he)).trans (List.map_id' l)
  rw [← hs', hqueue, List.map_append, List.map_cons, hkept front hfront, hkept back hback]
  simp

end Consistent
end Scheduler

/-- In every state of every run: a submission is refused by a stopped scheduler and for a kind that
nobody handles, a new priority for a task that is unknown or not pending, and nothing changes then. An
accepted submission brings in one pending task; an accepted priority is written to the task and to its
entry, which keeps its sequence number. Everything else stays as it was. -/
theorem refused_calls_change_nothing {ι ω : Type} (config : SchedulerConfig) (actions : List (Action ι ω)) :
    let p := (Pool.initial config).run actions
    let s := p.scheduler
    (∀ kind input options,
      (∀ e, s.add kind input options = .error e ↔
        (s.isStopped = true ∧ e = .stopped) ∨ (s.isStopped = false ∧ kind ∉ s.kinds ∧ e = .unknownKind kind)) ∧
      (∀ e, s.add kind input options = .error e → p.step (.add kind input options) = p) ∧
      ∀ id s', s.add kind input options = .ok (id, s') →
        p.step (.add kind input options) = { p with scheduler := s' } ∧
          s.Gains s' id (s.newTask kind input options)) ∧
    ∀ id q,
      (∀ e, (s.updatePriority id q).1 = .error e ↔ (s.task? id = none ∧ e = .notFound id) ∨
        ∃ t, s.task? id = some t ∧ t.status ≠ .pending ∧ e = .notPending id) ∧
      (∀ e, (s.updatePriority id q).1 = .error e →
        (s.updatePriority id q).2 = s ∧ p.step (.updatePriority id q) = p) ∧
      ∀ s', s.updatePriority id q = (.ok (), s') →
        p.step (.updatePriority id q) = { p with scheduler := s' } ∧ s.Reranks s' id q := by
  intro p s
  have h : s.Consistent := (Pool.balanced_run config actions).consistent
  refine ⟨fun kind input options => ⟨fun e => Scheduler.add_error_iff, ?_, ?_⟩,
    fun id q => ⟨fun e => h.updatePriority_error_iff, ?_, ?_⟩⟩
  · intro e hrefused
    rw [Pool.step, hrefused]
  · intro id s' haccepted
    refine ⟨?_, h.add_gains haccepted⟩
    rw [Pool.step, haccepted]
  · intro e hrefused
    have hsame : (s.updatePriority id q).2 = s := h.updatePriority_refused hrefused
    exact ⟨hsame, by rw [Pool.step, hsame]⟩
  · intro s' haccepted
    refine ⟨by rw [Pool.step, haccepted], ?_⟩
    have hreranks := h.updatePriority_reranks (congrArg Prod.fst haccepted)
    rwa [haccepted] at hreranks

/-- Of two tasks the first is done and the second one waits. -/
def halfDoneActions : List (Action Nat Nat) :=
  [.register "parse", .add "parse" 1 {}, .add "parse" 2 {}, .start, .dispatch, .announce 0,
    .finish 0 (.answered (.output 7))]

/-- The waiting task gets its new priority; the task that is done, a task that is unknown and a kind that
nobody handles change nothing. -/
theorem halfDone_calls :
    let p := (Pool.initial {}).run halfDoneActions
    let s := p.scheduler
    (s.add "lint" 3 {} = .error (.unknownKind "lint") ∧ p.step (.add "lint" 3 {}) = p) ∧
      (∃ id s', s.add "parse" 3 {} = .ok (id, s') ∧ s.Gains s' id (s.newTask "parse" 3 {})) ∧
      ((s.updatePriority 0 .high).1 = .error (.notPending 0) ∧ p.step (.updatePriority 0 .high) = p) ∧
      ((s.updatePriority 2 .high).1 = .error (.notFound 2) ∧ p.step (.updatePriority 2 .high) = p) ∧
      ∃ s', s.updatePriority 1 .high = (.ok (), s') ∧ s.Reranks s' 1 .high := by
  intro p s
  obtain ⟨hadd, hupdate⟩ := refused_calls_change_nothing {} halfDoneActions
  have hunknown : s.add "lint" 3 {} = .error (.unknownKind "lint") := by rfl
  have hdone : (s.updatePriority 0 .high).1 = .error (.notPending 0) := by rfl
  have hmissing : (s.updatePriority 2 .high).1 = .error (.notFound 2) := by rfl
  exact ⟨⟨hunknown, (hadd "lint" 3 {}).2.1 _ hunknown⟩,
    ⟨2, _, rfl, ((hadd "parse" 3 {}).2.2 2 _ rfl).2⟩,
    ⟨hdone, ((hupdate 0 .high).2.1 _ hdone).2⟩,
    ⟨hmissing, ((hupdate 2 .high).2.1 _ hmissing).2⟩,
    ⟨_, rfl, ((hupdate 1 .high).2.2 _ rfl).2⟩⟩

end CodeAudit
