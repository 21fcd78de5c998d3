import CodeAudit.Proofs.Audit.Noninterference
import Mathlib.Data.List.Forall2
import Mathlib.Data.List.Nodup
import Mathlib.Data.List.Range

/-! A sink that takes everything holds what the runs have returned. Results are stored as soon as they
are made and those that an assistant has written to once more; since the ids of results differ within
a run and from run to run, the second time replaces what the first one stored and moves nothing. -/
namespace CodeAudit

namespace ResultStore

variable {old rs : List NormalizedResult} {r : NormalizedResult}

/-- Results with other ids are passed over. -/
theorem upsert_append (h : r.id ∉ old.map (·.id)) : upsert (old ++ rs) r = old ++ upsert rs r := by
  induction old with
  | nil => rfl
  | cons s rest ih =>
    rw [List.map_cons, List.mem_cons, not_or] at h
    rw [List.cons_append, upsert, if_neg (Ne.symm h.1), ih h.2, List.cons_append]

/-- Results with new ids are added behind all others, in their order. -/
theorem foldl_upsert_fresh (h : ((old ++ rs).map (·.id)).Nodup) : rs.foldl upsert old = old ++ rs := by
  induction rs generalizing old with
  | nil => rw [List.foldl_nil, List.append_nil]
  | cons r rest ih =>
    have hnew : r.id ∉ old.map (·.id) := by
      rw [List.map_append, List.nodup_append] at h
      exact fun hmem => h.2.2 _ hmem _ List.mem_cons_self rfl
    have hupsert : upsert (old ++ []) r = old ++ [r] := upsert_append hnew
    rw [List.append_nil] at hupsert
    rw [List.append_cons] at h
    rw [List.foldl_cons, hupsert, ih h, List.append_assoc, List.singleton_append]

/-- A result as it was or with something changed that is stored anew. -/
def Revises (again : NormalizedResult → Bool) (r r' : NormalizedResult) : Prop :=
  r'.id = r.id ∧ (again r' = false → r' = r)

theorem map_id_of_revises {again : NormalizedResult → Bool} {rs' : List NormalizedResult}
    (h : List.Forall₂ (Revises again) rs rs') : rs'.map (·.id) = rs.map (·.id) := by
  induction h with
  | nil => rfl
  | cons hr _ ih => rw [List.map_cons, List.map_cons, hr.1, ih]

/-- Storing what has changed anew makes all results the new ones, where they were. -/
theorem foldl_upsert_revised {again : NormalizedResult → Bool} {rs' : List NormalizedResult}
    (h : List.Forall₂ (Revises again) rs rs') (hids : ((old ++ rs).map (·.id)).Nodup) :
    (rs'.filter again).foldl upsert (old ++ rs) = old ++ rs' := by
  induction h generalizing old with
  | nil => rfl
  | @cons r r' rs rs' hr _ ih =>
    have hother : r'.id ∉ old.map (·.id) := by
      rw [List.map_append, List.nodup_append] at hids
      rw [hr.1]
      exact fun hmem => hids.2.2 _ hmem _ List.mem_cons_self rfl
    have hnext : ((old ++ [r'] ++ rs).map (·.id)).Nodup := by
      rw [List.append_assoc, List.singleton_append]
      simpa [hr.1] using hids
    have hrest := ih hnext
    rw [List.append_assoc, List.append_assoc, List.singleton_append, List.singleton_append] at hrest
    cases hagain : again r' with
    | true =>
      rw [List.filter_cons_of_pos hagain, List.foldl_cons, upsert_append hother, upsert, if_pos hr.1.symm, hrest]
    | false =>
      rw [hr.2 hagain] at hrest
      rw [List.filter_cons_of_neg (by simp [hagain]), hrest, hr.2 hagain]

end ResultStore

/-- An id that the run with this number gives to its results. -/
def RunContext.IdOf (n : Nat) (id : String) : Prop :=
  ∃ c : RunContext, c.execution = s!"run-{n}" ∧ ∃ place, id = c.resultId place

/-- Results of a run whose ids are its own, different from each other and from those of earlier runs. -/
structure Fresh (old : List NormalizedResult) (n : Nat) (rs : List NormalizedResult) : Prop where
  distinct : ((old ++ rs).map (·.id)).Nodup
  own : ∀ id ∈ rs.map (·.id), RunContext.IdOf n id

theorem Fresh.nil {old : List NormalizedResult} (h : (old.map (·.id)).Nodup) (n : Nat) : Fresh old n [] where
  distinct := by
    rw [List.append_nil]
    exact h
  own _ hid := absurd hid List.not_mem_nil

theorem Fresh.congr {old rs rs' : List NormalizedResult} {n : Nat} (h : Fresh old n rs)
    (hids : rs'.map (·.id) = rs.map (·.id)) : Fresh old n rs' where
  distinct := by
    rw [List.map_append, hids, ← List.map_append]
    exact h.distinct
  own := by
    rw [hids]
    exact h.own

namespace RunContext

/-- The ids of the results of a run: they go by their places. -/
theorem map_id_normalizeAll (c : RunContext) (rs : List CategorizedResult) :
    (c.normalizeAll rs).map (·.id) = (List.range rs.length).map c.resultId := by
  rw [normalizeAll, List.map_map, List.range_eq_range', ← List.zipIdx_map_snd 0 rs, List.map_map]
  rfl

/-- The number of a run has no slash in it, so that an id tells the run and the place. -/
theorem resultId_inj {c c' : RunContext} {m n i j : Nat} (hc : c.execution = s!"run-{m}")
    (hc' : c'.execution = s!"run-{n}") (h : c.resultId i = c'.resultId j) : m = n ∧ i = j := by
  have hslash : ∀ k : Nat, '/' ∉ k.repr.toList := notMem_repr rfl
  have hlist := congrArg String.toList h
  simp only [resultId, hc, hc', toString, String.toList_append, List.append_assoc,
    List.append_cancel_left_eq] at hlist
  change m.repr.toList ++ '/' :: i.repr.toList = n.repr.toList ++ '/' :: j.repr.toList at hlist
  obtain ⟨hm, -, hi⟩ := (List.append_cons_inj_of_notMem (hslash m) (hslash i)).mp hlist
  exact ⟨eq_of_toList_repr hm, eq_of_toList_repr hi⟩

theorem nodup_ids_normalizeAll {c : RunContext} {n : Nat} (hc : c.execution = s!"run-{n}")
    (rs : List CategorizedResult) : ((c.normalizeAll rs).map (·.id)).Nodup := by
  rw [map_id_normalizeAll]
  exact List.Nodup.map (fun i j h => (resultId_inj hc hc h).2) List.nodup_range

theorem fresh_normalizeAll {c : RunContext} {n : Nat} {old : List NormalizedResult}
    (hc : c.execution = s!"run-{n}") (hold : (old.map (·.id)).Nodup)
    (hearlier : ∀ id ∈ old.map (·.id), ∃ m < n, IdOf m id) (rs : List CategorizedResult) :
    Fresh old n (c.normalizeAll rs) := by
  have hids := c.map_id_normalizeAll rs
  refine ⟨?_, ?_⟩
  · rw [List.map_append, hids, List.nodup_append]
    refine ⟨hold, hids ▸ nodup_ids_normalizeAll hc rs, ?_⟩
    intro id hid id' hid' heq
    obtain ⟨m, hm, d, hd, i, rfl⟩ := hearlier id hid
    obtain ⟨j, -, rfl⟩ := List.mem_map.mp hid'
    have hsame := (resultId_inj hd hc heq).1
    omega
  · intro id hid
    rw [hids] at hid
    obtain ⟨i, -, rfl⟩ := List.mem_map.mp hid
    exact ⟨c, hc, i, rfl⟩

/-- A new result has no texts. -/
theorem assistance_of_mem_normalizeAll {c : RunContext} {rs : List CategorizedResult} {r : NormalizedResult}
    (hr : r ∈ c.normalizeAll rs) : r.assistance = {} := by
  obtain ⟨x, -, rfl⟩ := List.mem_map.mp hr
  rfl

end RunContext

/-- Texts that do not show have not been written. -/
theorem NormalizedResult.assist_eq_self {r : NormalizedResult} {a : Assistance} (hr : r.assistance = {})
    (h : (r.assist a).isAssisted = false) : r.assist a = r := by
  have hnone : r.assistance.update a = {} := by
    rw [isAssisted, Bool.not_eq_false', assist, hr] at h
    rw [hr]
    simpa [Assistance.isEmpty, Assistance.update, and_assoc] using h
  rw [assist, hnone, ← hr]

namespace Enhancement

variable {c : AssistantConfig} {scheduler : SchedulerConfig} {e : Enhancer} {results : List NormalizedResult}
  {recovery : Recovery}

/-- An assistant writes to the results where they stand, and a text that it has written shows. -/
theorem run_revises (hplain : ∀ r ∈ results, r.assistance = {}) :
    List.Forall₂ (ResultStore.Revises NormalizedResult.isAssisted) results
      (run c scheduler e results recovery).results := by
  have hassist : ∀ texts : Nat → Assistance, List.Forall₂ (ResultStore.Revises NormalizedResult.isAssisted) results
      (results.zipIdx.map fun x => x.1.assist (texts x.2)) := by
    intro texts
    have hfst : results.zipIdx.map Prod.fst = results := List.zipIdx_map_fst 0 results
    nth_rewrite 1 [← hfst]
    rw [List.forall₂_map_left_iff, List.forall₂_map_right_iff, List.forall₂_same]
    intro x hx
    refine ⟨rfl, fun hnone => ?_⟩
    have hempty : x.1.assistance = {} := hplain x.1 (List.fst_mem_of_mem_zipIdx hx)
    exact NormalizedResult.assist_eq_self hempty hnone
  exact hassist _

/-- Where no text has come, everything is as it was. -/
theorem run_of_enhanced_eq_zero (h : (run c scheduler e results recovery).enhanced = 0) :
    (run c scheduler e results recovery).results = results := by
  have hassist : ∀ texts : List (AssistRequest × String),
      ((List.range results.length).countP fun place => texts.any fun t => t.1.place = place) = 0 →
      (results.zipIdx.map fun x => x.1.assist (assistanceAt texts x.2)) = results := by
    intro texts hzero
    have hfst : results.zipIdx.map Prod.fst = results := List.zipIdx_map_fst 0 results
    nth_rewrite 2 [← hfst]
    refine List.map_congr_left ?_
    intro x hx
    have hplace : x.2 < results.length := List.snd_lt_of_mem_zipIdx hx
    have hnone := List.countP_eq_zero.mp hzero x.2 (List.mem_range.mpr hplace)
    have hempty : assistanceAt texts x.2 = {} := by
      have hother : ∀ kind, (texts.find? fun t => t.1.place = x.2 ∧ t.1.kind = kind) = none := by
        intro kind
        rw [List.find?_eq_none]
        intro t ht hmatch
        exact hnone (List.any_eq_true.mpr ⟨t, ht, decide_eq_true (of_decide_eq_true hmatch).1⟩)
      simp only [assistanceAt, hother, Option.map_none]
    rw [hempty]
    rfl
  exact hassist _ h

end Enhancement

namespace RunState

variable {s : RunState} {stored : List NormalizedResult}

/-- A sink that takes everything holds these results. -/
def Holds (s : RunState) (stored : List NormalizedResult) : Prop :=
  ∃ store : ResultStore, s.sink = some { store := store } ∧ store.results = stored

/-- Records of progress leave the stored results alone. -/
theorem Holds.publish (h : s.Holds stored) (p : StageProgress) :
    ∃ sink, s.publish p = (none, s.noted [p] sink []) ∧ (s.noted [p] sink []).Holds stored := by
  obtain ⟨store, hsink, hstored⟩ := h
  refine ⟨some { store := store.upsertProgress p }, ?_, store.upsertProgress p, rfl, hstored⟩
  simp [RunState.publish, hsink, Sink.upsertProgress, noted, Recovery.recordAll_nil]

theorem Holds.persist (h : s.Holds stored) (rs : List NormalizedResult) :
    ∃ sink, s.persist rs = (none, { s with sink := sink }) ∧
      Holds { s with sink := sink } (rs.foldl ResultStore.upsert stored) := by
  obtain ⟨store, hsink, rfl⟩ := h
  refine ⟨some { store := store.write rs }, ?_, store.write rs, rfl, rfl⟩
  simp [RunState.persist, hsink, Sink.write]

/-- What is stored are the results of earlier runs and those that this one has so far. -/
structure Mirrors (old : List NormalizedResult) (n : Nat) (s : RunState) : Prop where
  holds : s.Holds (old ++ s.data.results)
  execution : s.execution = s!"run-{n}"

variable {old : List NormalizedResult} {n : Nat}

theorem Mirrors.publish (h : s.Mirrors old n) (p : StageProgress) :
    ∃ t, s.publish p = (none, t) ∧ t.Mirrors old n ∧ t.data = s.data := by
  obtain ⟨sink, hpublish, hholds⟩ := h.holds.publish p
  exact ⟨_, hpublish, ⟨hholds, h.execution⟩, rfl⟩

theorem Mirrors.record (h : s.Mirrors old n) (faults : List Fault) : (s.record faults).Mirrors old n :=
  ⟨h.holds, h.execution⟩

end RunState

/-- Work after which what is stored are the results, of which something is known; they are kept if the
stage completes. -/
structure StageEffect.Mirrors (old : List NormalizedResult) (n : Nat) (known : List NormalizedResult → Prop)
    (x : StageEffect) : Prop where
  state : x.state.Mirrors old n
  results : known x.state.data.results
  outcome : ∀ d, x.outcome = .ok d → d.results = x.state.data.results

namespace RunState

variable {s : RunState} {old : List NormalizedResult} {n : Nat}

/-- Between two records that are taken, the work of a stage decides what is stored and whether it fails. -/
theorem Mirrors.runStage {known : List NormalizedResult → Prop} {work : RunState → StageEffect}
    (h : s.Mirrors old n) (stage : Stage)
    (hwork : ∀ t : RunState, t.data = s.data → t.Mirrors old n → (work t).Mirrors old n known) :
    (s.runStage stage work).2.Mirrors old n ∧ known (s.runStage stage work).2.data.results ∧
      ((∀ t : RunState, t.data = s.data → t.Mirrors old n → ∃ d, (work t).outcome = .ok d) →
        (s.runStage stage work).1 = none) := by
  obtain ⟨t, hbegin, ht, hdata⟩ := h.publish (.running s.execution stage)
  have heffect := hwork t hdata ht
  simp only [RunState.runStage, hbegin]
  cases houtcome : (work t).outcome with
  | ok d =>
    obtain ⟨u, hend, hu, hkept⟩ := heffect.state.publish (.completed t.execution stage 0)
    have hresults : d.results = u.data.results := by rw [heffect.outcome d houtcome, hkept]
    simp only [hend]
    refine ⟨⟨?_, hu.execution⟩, ?_, fun _ => trivial⟩
    · obtain ⟨store, hsink, hstored⟩ := hu.holds
      exact ⟨store, hsink, by rw [hstored, hresults]⟩
    · rw [heffect.outcome d houtcome]
      exact heffect.results
  | error f =>
    simp only
    generalize (f.atStage stage).stageAborted = g
    obtain ⟨u, hend, hu, hkept⟩ := (heffect.state.record [g]).publish
      (.failed ((work t).state.record [g]).execution stage g.message 0)
    rw [hend]
    refine ⟨hu, ?_, fun hok => ?_⟩
    · rw [hkept]
      exact heffect.results
    · obtain ⟨d, hd⟩ := hok t hdata ht
      rw [houtcome] at hd
      cases hd

end RunState

namespace Auditor

variable {a : Auditor} {s : RunState} {old : List NormalizedResult} {n : Nat} {stage : Stage}

/-- Before normalization there is nothing to store. -/
theorem work_mirrors_early (hstage : stage.number < Stage.normalization.number) (h : s.Mirrors old n)
    (hnone : s.data.results = []) : (a.work stage s).Mirrors old n (· = []) := by
  have hsame : (a.work stage s).state.sink = s.sink ∧ (a.work stage s).state.data = s.data := by
    cases stage with
    | languageDetection | categorization | staticAnalysis => exact ⟨rfl, rfl⟩
    | astParsing | graphConstruction | ruleExecution =>
      simp only [work, parse, buildGraph, runRules]
      split <;> exact ⟨rfl, rfl⟩
    | normalization | enhancement => exact absurd hstage (by decide)
  refine ⟨⟨?_, (a.work_execution stage s).trans h.execution⟩, ?_, fun d hd => ?_⟩
  · rw [RunState.Holds, hsame.1, hsame.2]
    exact h.holds
  · rw [hsame.2]
    exact hnone
  · rw [work_outcome_early hstage hd, hsame.2]

/-- Normalization adds its results behind those of earlier runs. -/
theorem normalize_mirrors (h : s.Mirrors old n) (hnone : s.data.results = [])
    (hfresh : Fresh old n (s.context.normalizeAll s.data.categorized)) :
    (normalize s).Mirrors old n
      (fun rs => Fresh old n rs ∧ ∀ r ∈ rs, r.assistance = {}) ∧ ∃ d, (normalize s).outcome = .ok d := by
  have hstored : s.Holds old := by
    have hholds := h.holds
    rwa [hnone, List.append_nil] at hholds
  obtain ⟨sink, hpersist, hholds⟩ := RunState.Holds.persist
    (s := { s with data := { s.data with results := s.context.normalizeAll s.data.categorized } }) hstored
    (s.context.normalizeAll s.data.categorized)
  rw [ResultStore.foldl_upsert_fresh hfresh.distinct] at hholds
  simp only [normalize, hpersist]
  exact ⟨⟨⟨hholds, h.execution⟩, ⟨hfresh, fun r hr => RunContext.assistance_of_mem_normalizeAll hr⟩,
    fun d hd => by rw [← Except.ok.inj hd]⟩, _, rfl⟩

/-- Enhancement stores the results anew that it has written to. -/
theorem enhance_mirrors (a : Auditor) (e : Enhancer) (h : s.Mirrors old n) (hfresh : Fresh old n s.data.results)
    (hplain : ∀ r ∈ s.data.results, r.assistance = {}) :
    (a.enhance e s).Mirrors old n (Fresh old n) ∧ ∃ d, (a.enhance e s).outcome = .ok d := by
  unfold enhance
  have hrevises : List.Forall₂ (ResultStore.Revises NormalizedResult.isAssisted) s.data.results
      (Enhancement.run a.config.assistant a.config.scheduler e s.data.results s.recovery).results :=
    Enhancement.run_revises hplain
  have hzero : (Enhancement.run a.config.assistant a.config.scheduler e s.data.results s.recovery).enhanced = 0 →
      (Enhancement.run a.config.assistant a.config.scheduler e s.data.results s.recovery).results =
        s.data.results := Enhancement.run_of_enhanced_eq_zero
  generalize Enhancement.run a.config.assistant a.config.scheduler e s.data.results s.recovery = run
    at hrevises hzero
  have hids : Fresh old n run.results := hfresh.congr (ResultStore.map_id_of_revises hrevises)
  simp only
  split
  case isTrue hnone =>
    refine ⟨⟨⟨?_, h.execution⟩, hids, fun d hd => by rw [← Except.ok.inj hd]⟩, _, rfl⟩
    rw [hzero hnone]
    exact h.holds
  case isFalse =>
    obtain ⟨sink, hpersist, hholds⟩ := RunState.Holds.persist
      (s := { s with data := { s.data with results := run.results }, recovery := run.recovery }) h.holds
      (run.results.filter (·.isAssisted))
    rw [ResultStore.foldl_upsert_revised hrevises hfresh.distinct] at hholds
    simp only [hpersist]
    exact ⟨⟨⟨hholds, h.execution⟩, hids, fun d hd => by rw [← Except.ok.inj hd]⟩, _, rfl⟩

/-- Up to normalization, whether or not the run gets that far, nothing is stored. -/
theorem performAll_mirrors_early {stages : List Stage}
    (hstages : ∀ x ∈ stages, x.number < Stage.normalization.number) (h : s.Mirrors old n)
    (hnone : s.data.results = []) :
    (a.performAll stages s).2.Mirrors old n ∧ (a.performAll stages s).2.data.results = [] := by
  induction stages generalizing s with
  | nil => exact ⟨h, hnone⟩
  | cons stage rest ih =>
    have hstage := hstages stage List.mem_cons_self
    have hskip : a.skipReason? stage = none := by
      cases stage with
      | enhancement => exact absurd hstage (by decide)
      | _ => rfl
    have hwork : ∀ t : RunState, t.data = s.data → t.Mirrors old n → (a.work stage t).Mirrors old n (· = []) :=
      fun t hdata ht => work_mirrors_early hstage ht (by rw [hdata, hnone])
    obtain ⟨hmirrors, hresults, -⟩ := h.runStage stage hwork
    simp only [performAll, perform, hskip]
    rcases hrun : s.runStage stage (a.work stage) with ⟨_ | f, t⟩ <;> rw [hrun] at hmirrors hresults
    · exact ih (fun x hx => hstages x (List.mem_cons_of_mem _ hx)) hmirrors hresults
    · exact ⟨hmirrors, hresults⟩

/-- Normalization stores its results and completes. -/
theorem perform_normalization_mirrors (a : Auditor) (h : s.Mirrors old n) (hnone : s.data.results = [])
    (hold : (old.map (·.id)).Nodup) (hearlier : ∀ id ∈ old.map (·.id), ∃ m < n, RunContext.IdOf m id) :
    ∃ t, a.perform .normalization s = (none, t) ∧ t.Mirrors old n ∧ Fresh old n t.data.results ∧
      ∀ r ∈ t.data.results, r.assistance = {} := by
  have hwork : ∀ t : RunState, t.data = s.data → t.Mirrors old n →
      (normalize t).Mirrors old n (fun rs => Fresh old n rs ∧ ∀ r ∈ rs, r.assistance = {}) ∧
        ∃ d, (normalize t).outcome = .ok d := by
    intro t hdata ht
    exact normalize_mirrors ht (by rw [hdata, hnone]) (RunContext.fresh_normalizeAll ht.execution hold hearlier _)
  obtain ⟨hmirrors, hknown, hok⟩ := h.runStage .normalization fun t hdata ht => (hwork t hdata ht).1
  exact ⟨_, Prod.ext (hok fun t hdata ht => (hwork t hdata ht).2) rfl, hmirrors, hknown⟩

/-- Enhancement completes too, if it is not left out. -/
theorem perform_enhancement_mirrors (a : Auditor) (h : s.Mirrors old n) (hfresh : Fresh old n s.data.results)
    (hplain : ∀ r ∈ s.data.results, r.assistance = {}) :
    ∃ t, a.perform .enhancement s = (none, t) ∧ t.Mirrors old n ∧ Fresh old n t.data.results := by
  unfold perform
  split
  case h_1 reason hskip =>
    obtain ⟨t, hpublish, ht, hdata⟩ := h.publish (.skipped s.execution .enhancement reason)
    exact ⟨t, hpublish, ht, hdata ▸ hfresh⟩
  case h_2 hrun =>
    have hwork : ∀ t : RunState, t.data = s.data → t.Mirrors old n →
        (a.work .enhancement t).Mirrors old n (Fresh old n) ∧ ∃ d, (a.work .enhancement t).outcome = .ok d := by
      intro t hdata ht
      rw [← hdata] at hfresh hplain
      cases he : a.enhancer with
      | none =>
        simp only [skipReason?, he, Option.isNone_none, if_true] at hrun
        split at hrun <;> cases hrun
      | some e =>
        simp only [work, he]
        exact a.enhance_mirrors e ht hfresh hplain
    obtain ⟨hmirrors, hknown, hok⟩ := h.runStage .enhancement fun t hdata ht => (hwork t hdata ht).1
    exact ⟨_, Prod.ext (hok fun t hdata ht => (hwork t hdata ht).2) rfl, hmirrors, hknown⟩

/-- A run either comes to its end and has stored its results, or it stops before there are any. -/
theorem performAll_mirrors (a : Auditor) (h : s.Mirrors old n) (hnone : s.data.results = [])
    (hold : (old.map (·.id)).Nodup) (hearlier : ∀ id ∈ old.map (·.id), ∃ m < n, RunContext.IdOf m id) :
    (a.performAll Stage.all s).2.Mirrors old n ∧
      ((a.performAll Stage.all s).1 = none ∧ Fresh old n (a.performAll Stage.all s).2.data.results ∨
        (a.performAll Stage.all s).1.isSome = true ∧ (a.performAll Stage.all s).2.data.results = []) := by
  have hsplit : Stage.all = Stage.all.take 6 ++ [.normalization, .enhancement] := rfl
  have hstages : ∀ x ∈ Stage.all.take 6, x.number < Stage.normalization.number := by decide
  obtain ⟨hearly, hempty⟩ := performAll_mirrors_early (a := a) hstages h hnone
  rw [hsplit, performAll_append]
  rcases hrun : a.performAll (Stage.all.take 6) s with ⟨_ | f, t⟩ <;> rw [hrun] at hearly hempty
  · obtain ⟨u, hu, hmirrors, hfresh, hplain⟩ := a.perform_normalization_mirrors hearly hempty hold hearlier
    obtain ⟨v, hv, hlast, hkept⟩ := a.perform_enhancement_mirrors hmirrors hfresh hplain
    simp only [performAll, hu, hv]
    exact ⟨hlast, .inl ⟨trivial, hkept⟩⟩
  · exact ⟨hearly, .inr ⟨rfl, hempty⟩⟩

end Auditor

/-- A sink that takes everything holds these results, which are those of earlier runs. -/
structure AuditState.Stores (st : AuditState) (results : List NormalizedResult) : Prop where
  sink : ∃ store : ResultStore, st.sink = some { store := store } ∧ store.results = results
  distinct : (results.map (·.id)).Nodup
  earlier : ∀ id ∈ results.map (·.id), ∃ m < st.runs, RunContext.IdOf m id

/-- What a run leaves in the sink: its results if it succeeds. -/
def AuditReport.stored (r : AuditReport) : List NormalizedResult := if r.isSuccess then r.results else []

/-- A run stores what it returns, behind what earlier runs have stored. -/
theorem Auditor.runCollected_stores (a : Auditor) {st : AuditState} {old : List NormalizedResult} (h : st.Stores old)
    (project : String) (collected : Except String (List SourceFile)) :
    (a.runCollected st project collected).2.Stores (old ++ (a.runCollected st project collected).1.stored) := by
  have hearlier : ∀ id ∈ old.map (·.id), ∃ m < st.runs + 1, RunContext.IdOf m id := by
    intro id hid
    obtain ⟨m, hm, hof⟩ := h.earlier id hid
    exact ⟨m, Nat.lt_succ_of_lt hm, hof⟩
  cases collected with
  | error why =>
    have hnone : (a.runCollected st project (.error why)).1.stored = [] := rfl
    rw [hnone, List.append_nil]
    exact ⟨h.sink, h.distinct, hearlier⟩
  | ok files =>
    obtain ⟨store, hsink, hstore⟩ := h.sink
    have hbegin : (a.begin st project files).Mirrors old st.runs :=
      ⟨⟨store, hsink, by rw [hstore]; exact (List.append_nil old).symm⟩, rfl⟩
    obtain ⟨⟨⟨store', hsink', hstore'⟩, -⟩, hend⟩ := a.performAll_mirrors hbegin rfl h.distinct h.earlier
    -- either way, what is added to the store are the results in the last state
    have hadded : (a.run st project files).1.stored =
        (a.performAll Stage.all (a.begin st project files)).2.data.results ∧
          Fresh old st.runs (a.run st project files).1.stored := by
      simp only [run]
      rcases hlast : a.performAll Stage.all (a.begin st project files) with ⟨fault?, s⟩
      rw [hlast] at hend
      rcases hend with ⟨hok, hfresh⟩ | ⟨hfailed, hempty⟩
      · obtain rfl : fault? = none := hok
        exact ⟨rfl, hfresh⟩
      · obtain ⟨f, rfl⟩ := Option.isSome_iff_exists.mp hfailed
        exact ⟨hempty.symm, .nil h.distinct _⟩
    obtain ⟨hresults, hfresh⟩ := hadded
    refine ⟨⟨store', hsink', ?_⟩, hfresh.distinct, ?_⟩
    · rw [hstore', ← hresults]
      rfl
    · intro id hid
      rw [List.map_append, List.mem_append] at hid
      rcases hid with hid | hid
      · exact hearlier id hid
      · exact ⟨st.runs, Nat.lt_succ_self _, hfresh.own id hid⟩

/-- What is to be audited, and by whom: from one run to the next an assistant may answer otherwise. -/
structure AuditOrder where
  auditor : Auditor
  project : String
  collected : Except String (List SourceFile)

namespace AuditState

/-- Runs one after the other, with all that lasts from run to run. -/
def serve (st : AuditState) : List AuditOrder → List AuditReport × AuditState
  | [] => ([], st)
  | order :: rest =>
    let (report, st) := order.auditor.runCollected st order.project order.collected
    let (reports, st) := st.serve rest
    (report :: reports, st)

/-- Whatever the sink held before, the runs add what they return, each behind the one before. -/
theorem Stores.serve {st : AuditState} {old : List NormalizedResult} (h : st.Stores old)
    (orders : List AuditOrder) :
    (st.serve orders).2.Stores (old ++ (st.serve orders).1.flatMap AuditReport.stored) := by
  induction orders generalizing st old with
  | nil =>
    simpa [AuditState.serve] using h
  | cons order rest ih =>
    have hrest := ih (order.auditor.runCollected_stores h order.project order.collected)
    rw [List.append_assoc] at hrest
    exact hrest

end AuditState

theorem AuditReport.flatMap_stored (reports : List AuditReport) :
    reports.flatMap stored = (reports.filter (·.isSuccess)).flatMap (·.results) := by
  induction reports with
  | nil => rfl
  | cons r rest ih => cases hr : r.isSuccess <;> simp [stored, hr, ih]

/-- A sink that takes everything and was empty at first holds the results of all runs that succeeded: as
they were returned, with the texts of an assistant, in the order of the runs and none of them twice. -/
theorem stored_results_mirror_reports (st : AuditState) (hsink : st.sink = some {}) (orders : List AuditOrder) :
    let reports := (st.serve orders).1
    ∃ sink, (st.serve orders).2.sink = some sink ∧
      sink.store.results = (reports.filter (·.isSuccess)).flatMap (·.results) ∧
      (sink.store.results.map (·.id)).Nodup ∧
      ((∀ r ∈ reports, r.isSuccess = true) → sink.store.results = reports.flatMap (·.results)) := by
  intro reports
  have hempty : st.Stores [] := ⟨⟨{}, hsink, rfl⟩, List.nodup_nil, fun id hid => absurd hid List.not_mem_nil⟩
  obtain ⟨⟨store, hlast, hstored⟩, hdistinct, -⟩ := hempty.serve orders
  rw [← hstored] at hdistinct
  rw [List.nil_append, AuditReport.flatMap_stored] at hstored
  refine ⟨_, hlast, hstored, hdistinct, fun hall => ?_⟩
  rw [hstored]
  exact congrArg (List.flatMap (·.results)) (List.filter_eq_self.mpr hall)

/-- A run with an assistant, one for which no files were found, and one without an assistant. -/
def mixedOrders : List AuditOrder :=
  [⟨shallowAuditor.withAssistant { enabled := true } (some moodyEnhancer), "demo", .ok deepFiles⟩,
   ⟨shallowAuditor, "demo", .error "no such directory"⟩,
   ⟨shallowAuditor, "demo", .ok deepFiles⟩]

/-- The finding of the first run is stored with its explanation, that of the last one behind it without
any text. -/
theorem mixedOrders_stored :
    let served := (emptyState 0).serve mixedOrders
    served.1.map (fun r => r.results.map (·.assistance.explanation)) = [[some "nested too deeply"], [], [none]] ∧
      ∃ sink, served.2.sink = some sink ∧
        sink.store.results = (served.1.filter (·.isSuccess)).flatMap (·.results) ∧
        (sink.store.results.map (·.id)).Nodup := by
  intro served
  obtain ⟨sink, hsink, hresults, hids, -⟩ := stored_results_mirror_reports (emptyState 0) rfl mixedOrders
  exact ⟨by decide +kernel, sink, hsink, hresults, hids⟩

end CodeAudit
