import CodeAudit.Tasks.Scheduler
import Mathlib.Data.List.Nodup
import Mathlib.Data.List.Range
import Mathlib.Logic.Function.Basic

/-! Rosters: lists that name exactly the tasks with a given status, each once. A change of one
task's status enters it into one roster, takes it out of another and leaves all others alone; the
length of a roster is the number of tasks with its status. -/
namespace CodeAudit

/-- Mapping a list whose images differ commutes with taking a member out. -/
theorem map_erase_of_nodup {α β : Type} [DecidableEq α] [DecidableEq β] (f : α → β) {l : List α}
    (hn : (l.map f).Nodup) {a : α} (ha : a ∈ l) : (l.erase a).map f = (l.map f).erase (f a) := by
  induction l with
  | nil => simp at ha
  | cons b rest ih =>
    by_cases hb : b = a
    · subst b
      simp
    · have hrest : a ∈ rest := by
        rcases List.mem_cons.mp ha with rfl | h
        · exact False.elim (hb rfl)
        · exact h
      have hf : f b ≠ f a := by
        intro he
        rw [List.map_cons, List.nodup_cons] at hn
        exact hn.1 (he ▸ List.mem_map_of_mem hrest)
      rw [List.erase_cons_tail (by simpa using hb), List.map_cons, List.map_cons,
        List.erase_cons_tail (by simpa using hf), ih (List.nodup_cons.mp hn).2 hrest]

theorem ne_of_notMem_map {α β : Type} {f : α → β} {l : List α} {a : α} {b : β} (ha : a ∈ l)
    (hb : b ∉ l.map f) : f a ≠ b := fun he => hb (he ▸ List.mem_map_of_mem ha)

/-- Counting members is counting the places that hold them. -/
theorem countP_range_getElem? {α : Type} (q : α → Bool) (l : List α) :
    ((List.range l.length).countP fun i => (l[i]?).any q) = l.countP q := by
  induction l using List.reverseRecOn with
  | nil => rfl
  | append_singleton l a ih =>
    have hold : ((List.range l.length).countP fun i => ((l ++ [a])[i]?).any q) =
        (List.range l.length).countP fun i => (l[i]?).any q := by
      apply List.countP_congr
      intro i hi
      rw [List.getElem?_append_left (List.mem_range.mp hi)]
    rw [List.length_append, List.length_singleton, List.range_succ, List.countP_append, hold, ih,
      List.countP_append]
    simp

namespace Scheduler

variable {ι ω : Type} {s s' : Scheduler ι ω} {status new : TaskStatus} {ids : List Nat} {id : Nat}

def status? (s : Scheduler ι ω) (id : Nat) : Option TaskStatus := (s.task? id).map (·.status)

theorem status?_of_task? {t : Task ι ω} (h : s.task? id = some t) : s.status? id = some t.status := by
  simp [status?, h]

theorem status?_eq_some_iff : s.status? id = some status ↔ ∃ t, s.task? id = some t ∧ t.status = status := by
  simp [status?]

theorem lt_length_of_task? {t : Task ι ω} (h : s.task? id = some t) : id < s.tasks.length :=
  (List.getElem?_eq_some_iff.mp h).1

/-- Schedulers with the same tasks have the same statuses. -/
theorem status?_congr (h : s'.tasks = s.tasks) : s'.status? = s.status? := by
  funext id
  simp [status?, task?, h]

theorem task?_of_set {t' : Task ι ω} (h : s'.tasks = s.tasks.set id t') (hid : id < s.tasks.length)
    (k : Nat) : s'.task? k = if k = id then some t' else s.task? k := by
  rw [task?, h, List.getElem?_set]
  by_cases hk : k = id
  · subst k
    simp [hid]
  · simp [Ne.symm hk, hk, task?]

theorem status?_of_set {t' : Task ι ω} (h : s'.tasks = s.tasks.set id t') (hid : id < s.tasks.length) :
    s'.status? = Function.update s.status? id (some t'.status) := by
  funext k
  rw [status?, task?_of_set h hid, Function.update_apply]
  split <;> rfl

theorem task?_of_append {t' : Task ι ω} (h : s'.tasks = s.tasks ++ [t']) (k : Nat) :
    s'.task? k = if k = s.tasks.length then some t' else s.task? k := by
  rw [task?, h, List.getElem?_append]
  by_cases hk : k = s.tasks.length
  · subst k
    simp
  · by_cases hlt : k < s.tasks.length
    · simp [hlt, hk, task?]
    · have hgt : 0 < k - s.tasks.length := by omega
      simp [hlt, hk, task?, Nat.ne_of_gt hgt]

theorem status?_of_append {t' : Task ι ω} (h : s'.tasks = s.tasks ++ [t']) :
    s'.status? = Function.update s.status? s.tasks.length (some t'.status) := by
  funext k
  rw [status?, task?_of_append h, Function.update_apply]
  split <;> rfl

/-- The list names exactly the tasks with the status, each once. -/
structure Roster (s : Scheduler ι ω) (status : TaskStatus) (ids : List Nat) : Prop where
  nodup : ids.Nodup
  mem_iff : ∀ id, id ∈ ids ↔ s.status? id = some status

namespace Roster

theorem congr (h : Roster s status ids) (hs : s'.status? = s.status?) : Roster s' status ids :=
  ⟨h.nodup, fun id => by rw [hs]; exact h.mem_iff id⟩

theorem perm {ids' : List Nat} (h : Roster s status ids) (hp : ids'.Perm ids) : Roster s status ids' :=
  ⟨hp.nodup_iff.mpr h.nodup, fun id => by rw [hp.mem_iff]; exact h.mem_iff id⟩

theorem notMem {t : Task ι ω} (h : Roster s status ids) (ht : s.task? id = some t)
    (hne : t.status ≠ status) : id ∉ ids := by
  rw [h.mem_iff, status?_of_task? ht, Option.some.injEq]
  exact hne

/-- A task that had another status and gets another one does not count. -/
theorem keep (h : Roster s status ids) (hs : s'.status? = Function.update s.status? id (some new))
    (hold : s.status? id ≠ some status) (hnew : new ≠ status) : Roster s' status ids := by
  refine ⟨h.nodup, fun k => ?_⟩
  rw [h.mem_iff, hs, Function.update_apply]
  by_cases hk : k = id
  · subst k
    simp [hold, hnew]
  · simp [hk]

theorem insert (h : Roster s status ids) (hs : s'.status? = Function.update s.status? id (some status))
    (hold : s.status? id ≠ some status) : Roster s' status (ids ++ [id]) := by
  have hmem : id ∉ ids := fun hm => hold ((h.mem_iff id).mp hm)
  refine ⟨List.nodup_append.mpr ⟨h.nodup, List.nodup_singleton id, ?_⟩, fun k => ?_⟩
  · rintro a ha b hb rfl
    rw [List.mem_singleton] at hb
    exact hmem (hb ▸ ha)
  · rw [List.mem_append, List.mem_singleton, h.mem_iff, hs, Function.update_apply]
    by_cases hk : k = id
    · simp [hk]
    · simp [hk]

theorem remove (h : Roster s status ids) (hs : s'.status? = Function.update s.status? id (some new))
    (hnew : new ≠ status) : Roster s' status (ids.erase id) := by
  refine ⟨h.nodup.erase id, fun k => ?_⟩
  rw [h.nodup.mem_erase_iff, h.mem_iff, hs, Function.update_apply]
  by_cases hk : k = id
  · simp [hk, hnew]
  · simp [hk]

/-- The length of a roster is the number of tasks with its status. -/
theorem length_eq (h : Roster s status ids) :
    ids.length = s.tasks.countP fun t => t.status = status := by
  have hp : ids.Perm ((List.range s.tasks.length).filter fun i => s.status? i = some status) := by
    refine (List.perm_ext_iff_of_nodup h.nodup (List.nodup_range.filter _)).mpr fun id => ?_
    rw [h.mem_iff, List.mem_filter, List.mem_range]
    constructor
    · intro hid
      obtain ⟨t, ht, _⟩ := status?_eq_some_iff.mp hid
      exact ⟨lt_length_of_task? ht, by simpa using hid⟩
    · intro hid
      simpa using hid.2
  rw [hp.length_eq, ← List.countP_eq_length_filter, ← countP_range_getElem? _ s.tasks]
  apply List.countP_congr
  intro i _
  cases hi : s.tasks[i]? <;> simp [status?, task?, hi]

end Roster
end Scheduler
end CodeAudit
