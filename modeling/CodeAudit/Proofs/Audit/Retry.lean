import CodeAudit.Audit.Recovery

/-! Series of attempts: where they end, the faults that they leave in the log, and the stages that the
log calls failed afterwards. -/
namespace CodeAudit

theorem Stage.mem_all (s : Stage) : s ∈ all := by cases s <;> decide

namespace Recovery

/-- The attempts from a number on: the faults of those that failed, in order, and the outcome. -/
inductive Series {α : Type} (maxRetries : Nat) (op : Nat → Except Fault α) :
    Nat → List Fault → Except Fault α → Prop
  | success {n : Nat} {v : α} (hop : op n = .ok v) : Series maxRetries op n [] (.ok v)
  | again {n : Nat} {f : Fault} {faults : List Fault} {outcome : Except Fault α} (hop : op n = .error f)
      (hretry : f.isRetryable = true) (hleft : n ≤ maxRetries)
      (hrest : Series maxRetries op (n + 1) faults outcome) :
      Series maxRetries op n (f.onAttempt n :: faults) outcome
  | failure {n : Nat} {f : Fault} (hop : op n = .error f) (hlast : f.isRetryable = true → maxRetries < n) :
      Series maxRetries op n [f.onAttempt n] (.error (f.onAttempt n))

variable {α : Type} {op : Nat → Except Fault α} {m n : Nat} {faults : List Fault} {outcome : Except Fault α}

theorem reaction_eq_retry_iff {r : Recovery} {f : Fault} {n : Nat} :
    r.reaction f n = .retry ↔ f.isRetryable = true ∧ n ≤ r.maxRetries := by
  constructor
  · intro h
    refine ⟨?_, le_maxRetries_of_reaction_eq_retry h⟩
    by_cases hf : f.isRetryable = true
    · exact hf
    · rw [reaction, if_neg hf] at h
      simpa [f.isRetryable_eq, FaultKind.isRetryable] using h
  · rintro ⟨hf, hn⟩
    rw [reaction, if_pos hf, if_pos hn]

theorem recordAll_recordAll (r : Recovery) (fs gs : List Fault) :
    (r.recordAll fs).recordAll gs = r.recordAll (fs ++ gs) := by
  simp only [recordAll, List.append_assoc]

/-- What attempts do is a series, and its faults are all that they change. -/
theorem retryFrom_series (op : Nat → Except Fault α) (r : Recovery) (n ms : Nat) :
    ∃ faults, Series r.maxRetries op n faults (retryFrom op r n ms).outcome ∧
      (retryFrom op r n ms).recovery = r.recordAll faults := by
  fun_induction retryFrom op r n ms with
  | case1 r n ms v hop => exact ⟨[], .success hop, by simp [recordAll]⟩
  | case2 r n ms f hop g hreaction rest ih =>
    obtain ⟨faults, hrest, hrecovery⟩ := ih
    obtain ⟨hretry, hleft⟩ := reaction_eq_retry_iff.mp hreaction
    exact ⟨g :: faults, .again hop hretry hleft hrest, hrecovery.trans (recordAll_recordAll r [g] faults)⟩
  | case3 r n ms f hop g hreaction =>
    refine ⟨[g], .failure hop fun hretry => ?_, rfl⟩
    exact Nat.lt_of_not_le fun hleft => hreaction (reaction_eq_retry_iff.mpr ⟨hretry, hleft⟩)

theorem retry_series (r : Recovery) (op : Nat → Except Fault α) :
    ∃ faults, Series r.maxRetries op 1 faults (r.retry op).outcome ∧
      (r.retry op).recovery = r.recordAll faults :=
  retryFrom_series op r 1 0

/-- The operation and the number of retries settle a series. -/
theorem Series.unique (h : Series m op n faults outcome) {faults' : List Fault} {outcome' : Except Fault α}
    (h' : Series m op n faults' outcome') : faults' = faults ∧ outcome' = outcome := by
  induction h generalizing faults' outcome' with
  | success hop =>
    cases h' with
    | success hop' =>
      rw [hop] at hop'
      exact ⟨rfl, hop'.symm⟩
    | again hop' | failure hop' => simp [hop] at hop'
  | @again n f faults outcome hop hretry hleft _ ih =>
    cases h' with
    | success hop' => simp [hop] at hop'
    | again hop' _ _ hrest =>
      obtain rfl : f = _ := by simpa [hop] using hop'
      obtain ⟨rfl, rfl⟩ := ih hrest
      exact ⟨rfl, rfl⟩
    | failure hop' hlast =>
      obtain rfl : f = _ := by simpa [hop] using hop'
      have := hlast hretry
      omega
  | @failure n f hop hlast =>
    cases h' with
    | success hop' => simp [hop] at hop'
    | again hop' hretry hleft =>
      obtain rfl : f = _ := by simpa [hop] using hop'
      have := hlast hretry
      omega
    | failure hop' =>
      obtain rfl : f = _ := by simpa [hop] using hop'
      exact ⟨rfl, rfl⟩

/-- A log that is there already changes neither the outcome nor the faults that are added. -/
theorem retry_eq_of_maxRetries {r : Recovery} (r' : Recovery) (h : r.maxRetries = r'.maxRetries)
    (hlog : r'.log = []) (op : Nat → Except Fault α) :
    (r.retry op).outcome = (r'.retry op).outcome ∧
      (r.retry op).recovery = r.recordAll (r'.retry op).recovery.log := by
  obtain ⟨faults, hseries, hrecovery⟩ := r.retry_series op
  obtain ⟨faults', hseries', hrecovery'⟩ := r'.retry_series op
  rw [← h] at hseries'
  obtain ⟨rfl, houtcome⟩ := hseries'.unique hseries
  refine ⟨houtcome, ?_⟩
  have hlog' : (r'.retry op).recovery.log = faults := by rw [hrecovery', recordAll, hlog, List.nil_append]
  rw [hrecovery, hlog']

/-- A fault of a series comes from an attempt. -/
theorem Series.exists_of_mem (h : Series m op n faults outcome) {g : Fault} (hg : g ∈ faults) :
    ∃ i f, op i = .error f ∧ g = f.onAttempt i := by
  induction h with
  | success => simp at hg
  | again hop _ _ _ ih =>
    rcases List.mem_cons.mp hg with rfl | hg
    · exact ⟨_, _, hop, rfl⟩
    · exact ih hg
  | failure hop => exact ⟨_, _, hop, List.mem_singleton.mp hg⟩

/-- A series that succeeds: all attempts before the last one failed, with a fault worth another
attempt, and these faults are the ones of the series. -/
theorem Series.of_ok {v : α} (h : Series m op n faults (.ok v)) :
    ∃ k, n ≤ k ∧ (k = n ∨ k ≤ m + 1) ∧ op k = .ok v ∧
      (∀ i, n ≤ i → i < k → ∃ f, op i = .error f ∧ f.isRetryable = true) ∧
      ∀ g, g ∈ faults ↔ ∃ i f, n ≤ i ∧ i < k ∧ op i = .error f ∧ g = f.onAttempt i := by
  generalize hout : Except.ok v = outcome at h
  induction h with
  | @success n w hop =>
    cases hout
    refine ⟨n, Nat.le_refl n, .inl rfl, hop, ?_, ?_⟩
    · intro i hn hi
      omega
    · intro g
      simp only [List.not_mem_nil, false_iff]
      rintro ⟨i, f, hn, hi, -⟩
      omega
  | @again n f faults outcome hop hretry hleft _ ih =>
    obtain ⟨k, hk, hbound, hok, hbefore, hfaults⟩ := ih hout
    refine ⟨k, by omega, .inr (by omega), hok, ?_, ?_⟩
    · intro i hn hi
      rcases Nat.eq_or_lt_of_le hn with rfl | hn
      · exact ⟨f, hop, hretry⟩
      · exact hbefore i hn hi
    · intro g
      rw [List.mem_cons, hfaults]
      constructor
      · rintro (rfl | ⟨i, f', hn, hi, hop', rfl⟩)
        · exact ⟨n, f, Nat.le_refl n, by omega, hop, rfl⟩
        · exact ⟨i, f', by omega, hi, hop', rfl⟩
      · rintro ⟨i, f', hn, hi, hop', rfl⟩
        rcases Nat.eq_or_lt_of_le hn with rfl | hn
        · left
          rw [hop, Except.error.injEq] at hop'
          rw [hop']
        · exact .inr ⟨i, f', hn, hi, hop', rfl⟩
  | failure => cases hout

theorem mem_failedStages_iff {r : Recovery} {s : Stage} :
    s ∈ r.failedStages ↔ ∃ f ∈ r.log, f.failsStage = true ∧ f.stage = some s := by
  simp [failedStages, Stage.mem_all]

theorem mem_failedStages_recordAll {r : Recovery} {fs : List Fault} {s : Stage} :
    s ∈ (r.recordAll fs).failedStages ↔
      s ∈ r.failedStages ∨ ∃ f ∈ fs, f.failsStage = true ∧ f.stage = some s := by
  simp only [mem_failedStages_iff, recordAll, List.mem_append, or_and_right, exists_or]

/-- Faults of one stage do not tell of another one. -/
theorem mem_failedStages_of_other {r : Recovery} {fs : List Fault} {s t : Stage}
    (hfs : ∀ f ∈ fs, f.stage = some s) (ht : t ≠ s) :
    t ∈ (r.recordAll fs).failedStages ↔ t ∈ r.failedStages := by
  rw [mem_failedStages_recordAll]
  constructor
  · rintro (h | ⟨f, hf, -, hstage⟩)
    · exact h
    · rw [hfs f hf, Option.some.injEq] at hstage
      exact absurd hstage.symm ht
  · exact .inl

/-- Recording faults keeps the failed stages as they are if it adds none. -/
theorem failedStages_recordAll_eq_iff {r : Recovery} {fs : List Fault} :
    (r.recordAll fs).failedStages = r.failedStages ↔
      ∀ f ∈ fs, ∀ s, f.failsStage = true → f.stage = some s → s ∈ r.failedStages := by
  constructor
  · intro h f hf s hfails hs
    rw [← h]
    exact mem_failedStages_recordAll.mpr (.inr ⟨f, hf, hfails, hs⟩)
  · intro h
    -- both are selections from the list of all stages
    refine List.filter_congr fun s _ => ?_
    have hiff : s ∈ (r.recordAll fs).failedStages ↔ s ∈ r.failedStages := by
      rw [mem_failedStages_recordAll, or_iff_left_iff_imp]
      rintro ⟨f, hf, hfails, hs⟩
      exact h f hf s hfails hs
    simp only [failedStages, List.mem_filter, Stage.mem_all, true_and] at hiff
    exact Bool.eq_iff_iff.mpr hiff

/-- An attempt that is the last one: it succeeds, its fault is not worth another attempt, or there is
no retry left. -/
def Settles (maxRetries : Nat) (op : Nat → Except Fault α) (n : Nat) : Prop :=
  (∃ v, op n = .ok v) ∨ (∃ f, op n = .error f ∧ f.isRetryable = false) ∨ n = maxRetries + 1

/-- The fault that an attempt leaves in the log, if it fails. -/
def stampedFault? (op : Nat → Except Fault α) (n : Nat) : Option Fault :=
  match op n with
  | .ok _ => none
  | .error f => some (f.onAttempt n)

/-- Attempts from number `n` to number `k`, the first that settles, and what is left of them. -/
structure EndsAt (r : Recovery) (op : Nat → Except Fault α) (n k : Nat) (run : RetryRun α) : Prop where
  le : n ≤ k
  bound : k ≤ r.maxRetries + 1
  settles : Settles r.maxRetries op k
  before : ∀ i, n ≤ i → i < k → ¬ Settles r.maxRetries op i
  attempts : run.attempts = List.range' n (k + 1 - n)
  outcome : run.outcome = (op k).mapError (·.onAttempt k)
  recovery : run.recovery = r.recordAll ((List.range' n (k + 1 - n)).filterMap (stampedFault? op))

/-- The only attempt, if it settles. -/
theorem EndsAt.of_settles {r : Recovery} (hn : n ≤ r.maxRetries + 1) (hsettles : Settles r.maxRetries op n) (ms : Nat) :
    EndsAt r op n n
      ⟨(op n).mapError (·.onAttempt n), r.recordAll (stampedFault? op n).toList, ms, [n]⟩ where
  le := Nat.le_refl n
  bound := hn
  settles := hsettles
  before := by omega
  attempts := by simp
  outcome := rfl
  recovery := by cases h : stampedFault? op n <;> simp [h]

/-- One attempt more, in front of all others. -/
theorem EndsAt.again {r : Recovery} {k : Nat} {f : Fault} {run : RetryRun α} (hop : op n = .error f)
    (hretry : f.isRetryable = true) (hleft : n ≤ r.maxRetries)
    (h : EndsAt (r.record (f.onAttempt n)) op (n + 1) k run) :
    EndsAt r op n k { run with attempts := n :: run.attempts } := by
  have hle := h.le
  have hrange : List.range' n (k + 1 - n) = n :: List.range' (n + 1) (k + 1 - (n + 1)) := by
    rw [show k + 1 - n = (k + 1 - (n + 1)) + 1 by omega, List.range'_succ]
  have hstamped : stampedFault? op n = some (f.onAttempt n) := by rw [stampedFault?, hop]
  have hnot : ¬ Settles r.maxRetries op n := by
    rintro (⟨v, hv⟩ | ⟨g, hg, hlast⟩ | hn)
    · simp [hop] at hv
    · obtain rfl : f = g := by simpa [hop] using hg
      simp [hretry] at hlast
    · omega
  refine ⟨by omega, h.bound, h.settles, ?_, ?_, h.outcome, ?_⟩
  · intro i hi hik
    rcases Nat.eq_or_lt_of_le hi with rfl | hi
    · exact hnot
    · exact h.before i hi hik
  · rw [hrange, ← h.attempts]
  · rw [hrange, List.filterMap_cons_some hstamped]
    exact h.recovery.trans (recordAll_recordAll r [f.onAttempt n] _)

/-- Attempts are made up to the first that settles. -/
theorem retryFrom_endsAt (op : Nat → Except Fault α) (r : Recovery) (n ms : Nat) (hn : n ≤ r.maxRetries + 1) :
    ∃ k, EndsAt r op n k (retryFrom op r n ms) := by
  fun_induction retryFrom op r n ms with
  | case1 r n ms v hop =>
    have hends := EndsAt.of_settles hn (.inl ⟨v, hop⟩) ms
    simp only [stampedFault?, hop, Option.toList_none, recordAll, List.append_nil] at hends
    exact ⟨n, hends⟩
  | case2 r n ms f hop g hreaction rest ih =>
    obtain ⟨hretry, hleft⟩ := reaction_eq_retry_iff.mp hreaction
    obtain ⟨k, hk⟩ := ih (Nat.succ_le_succ hleft)
    exact ⟨k, hk.again hop hretry hleft⟩
  | case3 r n ms f hop g hreaction =>
    have hsettles : Settles r.maxRetries op n := by
      by_cases hretry : f.isRetryable = true
      · have hover : ¬ n ≤ r.maxRetries := fun hleft => hreaction (reaction_eq_retry_iff.mpr ⟨hretry, hleft⟩)
        exact .inr (.inr (by omega))
      · exact .inr (.inl ⟨f, hop, by simpa using hretry⟩)
    have hends := EndsAt.of_settles hn hsettles ms
    simp only [stampedFault?, hop, Option.toList_some] at hends
    exact ⟨n, hends⟩

/-- An operation is tried with the numbers 1, 2, … up to the first attempt that succeeds, that fails with
a fault not worth another attempt, or that is the last one the budget has; these numbers fit 32 bits. The
outcome is that of this attempt, and the faults of all attempts, each with its number, are added to the log
and nothing else is changed. -/
theorem attempts_end_at_first_settled {α : Type} (r : Recovery) (op : Nat → Except Fault α)
    (hretries : r.maxRetries < bound32 - 1) :
    ∃ k, 1 ≤ k ∧ k ≤ r.maxRetries + 1 ∧ k < bound32 ∧
      Settles r.maxRetries op k ∧ (∀ i, 1 ≤ i → i < k → ¬ Settles r.maxRetries op i) ∧
      (r.retry op).attempts = List.range' 1 k ∧
      (r.retry op).outcome = (op k).mapError (·.onAttempt k) ∧
      (r.retry op).recovery = { r with log := r.log ++ (List.range' 1 k).filterMap (stampedFault? op) } := by
  obtain ⟨k, h⟩ := retryFrom_endsAt op r 1 0 (by omega)
  have hbound := h.bound
  exact ⟨k, h.le, hbound, by omega, h.settles, h.before, h.attempts, h.outcome, h.recovery⟩

/-- An operation that times out twice and then comes to a conflict that no attempt can mend. -/
def timeoutsThenConflict (n : Nat) : Except Fault Nat :=
  if n ≤ 2 then .error (.new .timeout "slow") else .error (.new .merge "conflict")

/-- With five retries, three attempts are made and logged behind the fault that was there. -/
theorem timeoutsThenConflict_attempts :
    let r : Recovery := { maxRetries := 5, log := [.new .storage "disk full"] }
    r.maxRetries < bound32 - 1 ∧
      (r.retry timeoutsThenConflict).attempts = [1, 2, 3] ∧
      (r.retry timeoutsThenConflict).outcome = .error ((Fault.new .merge "conflict").onAttempt 3) ∧
      (r.retry timeoutsThenConflict).recovery.log =
        [.new .storage "disk full", (Fault.new .timeout "slow").onAttempt 1,
         (Fault.new .timeout "slow").onAttempt 2, (Fault.new .merge "conflict").onAttempt 3] := by
  intro r
  have hretries : r.maxRetries < bound32 - 1 := by decide
  obtain ⟨k, hk, hbound, -, hsettles, hbefore, hattempts, houtcome, hrecovery⟩ :=
    attempts_end_at_first_settled r timeoutsThenConflict hretries
  have hconflict : Settles r.maxRetries timeoutsThenConflict 3 := .inr (.inl ⟨_, rfl, rfl⟩)
  have hslow : ∀ n, n ≤ 2 → ¬ Settles r.maxRetries timeoutsThenConflict n := by
    intro n hn
    have hop : timeoutsThenConflict n = .error (.new .timeout "slow") := if_pos hn
    have hlast : n ≠ r.maxRetries + 1 := by
      show n ≠ 6
      omega
    simp [Settles, hop, hlast, Fault.new, FaultKind.isRetryable, FaultKind.action]
  obtain rfl : k = 3 := by
    have hle : ¬ 3 < k := fun hlt => hbefore 3 (by omega) hlt hconflict
    have hge : ¬ k ≤ 2 := fun hle => hslow k hle hsettles
    omega
  rw [hrecovery]
  exact ⟨hretries, hattempts, houtcome, rfl⟩

end Recovery
end CodeAudit
