import CodeAudit.Audit.Enhancement
import CodeAudit.Proofs.Tasks.Clock

/-! What an assistant writes. Every text that is asked for is that of the first attempt that gives one in
time, whatever order the requests are served in; those without one leave a fault each, and nothing
depends on the settings of the scheduler. -/
namespace CodeAudit.Enhancement

/-- What an attempt comes to: a text that came in time and is not blank, or what is told of its failure. -/
def attempt (timeoutMs : Nat) (play : Play String) : Except String String :=
  if play.sleepMs < timeoutMs then
    match play.reply with
    | .output text =>
      if (Text.trim text).isEmpty then .error "AI response rejected: empty text" else .ok (Text.trim text)
    | .error message => .error message
    | .panic message => .error ("Task panicked: " ++ Simulation.panicText message)
  else .error (Simulation.timeoutError timeoutMs)

def kinds : List AssistKind := [.explanation, .suggestion, .securityAdvice]

/-- Whether a text is asked for. -/
def isAsked (c : AssistantConfig) (r : NormalizedResult) : AssistKind → Bool
  | .explanation => c.explanation
  | .suggestion => c.suggestion
  | .securityAdvice => c.securityAdvice && r.main == .security

/-- The text of the first of all attempts that gives one. -/
def firstText? (c : AssistantConfig) (e : Enhancer) (r : NormalizedResult) (kind : AssistKind) : Option String :=
  (List.range (c.maxRetries + 1)).findSome? fun i => (attempt c.timeoutMs (e kind r (i + 1))).toOption

/-- The text that is written for a result. -/
def text? (c : AssistantConfig) (e : Enhancer) (r : NormalizedResult) (kind : AssistKind) : Option String :=
  if isAsked c r kind then firstText? c e r kind else none

/-- The texts that are asked for, and those of them that never come. -/
def asked (c : AssistantConfig) (r : NormalizedResult) : List AssistKind := kinds.filter (isAsked c r)

def missing (c : AssistantConfig) (e : Enhancer) (r : NormalizedResult) : List AssistKind :=
  (asked c r).filter fun kind => (firstText? c e r kind).isNone

/-- What is told of the last attempt at a text that never came. -/
def lastFault (c : AssistantConfig) (e : Enhancer) (r : NormalizedResult) (kind : AssistKind) : Fault :=
  let message := match attempt c.timeoutMs (e kind r (c.maxRetries + 1)) with
    | .ok _ => ""
    | .error message => message
  { kind := faultKind message
    severity := (faultKind message).severity
    stage := some .enhancement
    message := message
    file := some r.file
    rule := some r.rule
    attempt := some (c.maxRetries + 1) }

section Attempts

variable {c : AssistantConfig} {e : Enhancer} {q : AssistRequest}

/-- The task for a request. -/
def job (c : AssistantConfig) (q : AssistRequest) : Task AssistRequest String where
  kind := taskKind
  input := q
  priority := priorityOf q.result
  maxRetries := c.maxRetries
  timeoutMs := c.timeoutMs

/-- How an attempt ends: with its text, or with a failure after which it can be repeated. -/
theorem ending_eq (e : Enhancer) (q : AssistRequest) (timeoutMs n : Nat) :
    match attempt timeoutMs (e q.kind q.result n) with
    | .ok text => (handler e).ending q timeoutMs n = .answered (.output text)
    | .error message => ((handler e).ending q timeoutMs n).isRetryable = true ∧
        ((handler e).ending q timeoutMs n).outcome timeoutMs = .failed message := by
  have hending : (handler e).ending q timeoutMs n = if (e q.kind q.result n).sleepMs < timeoutMs then
      .answered (accept (e q.kind q.result n).reply) else .timedOut := rfl
  rw [hending]
  generalize e q.kind q.result n = play
  by_cases hintime : play.sleepMs < timeoutMs
  · simp only [attempt, if_pos hintime]
    cases play.reply with
    | output text =>
      cases hblank : (Text.trim text).isEmpty with
      | true => simp only [accept, hblank, if_true, Ending.isRetryable, Ending.outcome, and_self]
      | false => simp only [accept, hblank, Bool.false_eq_true, if_false]
    | error message => simp only [accept, Ending.isRetryable, Ending.outcome, and_self]
    | panic message => simp only [accept, Ending.isRetryable, Ending.outcome, and_self]
  · simp only [attempt, if_neg hintime, Ending.isRetryable, Ending.outcome, and_self]

/-- The bench of some requests. -/
def bench (c : AssistantConfig) (scheduler : SchedulerConfig) (e : Enhancer) (qs : List AssistRequest)
    (hkeys : (qs.map (handler e).key).Nodup) : Bench AssistRequest String where
  config := { scheduler with taskTimeoutMs := c.timeoutMs, maxRetries := c.maxRetries }
  kind := taskKind
  handler := handler e
  jobs := qs.map (job c)
  kinds := by simp [job]
  keys := by
    rw [List.map_map]
    exact hkeys

variable {scheduler : SchedulerConfig} {qs : List AssistRequest} {hkeys : (qs.map (handler e).key).Nodup}
  {t : Task AssistRequest String} {repeated : Nat}

/-- The attempt that a request has come to its end with: it gives a text, or it is the last one. -/
theorem last_attempt (h : (bench c scheduler e qs hkeys).Ends (job c q) t repeated) :
    (∀ i < repeated, (attempt c.timeoutMs (e q.kind q.result (i + 1))).toOption = none) ∧
    ((∃ text, attempt c.timeoutMs (e q.kind q.result (repeated + 1)) = .ok text ∧ t.status = .completed ∧
        t.output = some text) ∨
      ∃ message, attempt c.timeoutMs (e q.kind q.result (repeated + 1)) = .error message ∧
        repeated = c.maxRetries ∧ t.status ≠ .completed ∧ t.error = some message) := by
  refine ⟨fun i hi => ?_, ?_⟩
  · have hbefore : ((handler e).ending q c.timeoutMs (i + 1)).isRetryable = true := h.before i hi
    have hending := ending_eq e q c.timeoutMs (i + 1)
    cases hattempt : attempt c.timeoutMs (e q.kind q.result (i + 1)) with
    | error message => rfl
    | ok text =>
      rw [hattempt] at hending
      rw [hending] at hbefore
      cases hbefore
  · have hending := ending_eq e q c.timeoutMs (repeated + 1)
    cases hattempt : attempt c.timeoutMs (e q.kind q.result (repeated + 1)) with
    | ok text =>
      rw [hattempt] at hending
      exact .inl ⟨text, rfl, h.status.mpr ⟨text, hending⟩, h.output text hending⟩
    | error message =>
      rw [hattempt] at hending
      obtain ⟨hretryable, houtcome⟩ := hending
      refine .inr ⟨message, rfl, h.last hretryable, fun hcompleted => ?_, ?_⟩
      · obtain ⟨v, hv⟩ := h.status.mp hcompleted
        rw [show (handler e).ending q c.timeoutMs (repeated + 1) = _ from hv] at hretryable
        cases hretryable
      · have herror : t.error = (((handler e).ending q c.timeoutMs (repeated + 1)).outcome c.timeoutMs).error? := h.error
        rw [herror, houtcome]
        rfl

/-- The record of a request that has come to its end holds the first text. -/
theorem textOf_of_ends (h : (bench c scheduler e qs hkeys).Ends (job c q) t repeated) :
    textOf t = firstText? c e q.result q.kind := by
  obtain ⟨hbefore, ⟨text, hattempt, hstatus, houtput⟩ | ⟨message, hattempt, hlast, hstatus, -⟩⟩ := last_attempt h
  · have hrange : List.range (c.maxRetries + 1) =
        List.range repeated ++ repeated :: (List.range (c.maxRetries - repeated)).map (repeated + 1 + ·) := by
      have hleft : repeated ≤ c.maxRetries := h.left
      rw [show c.maxRetries + 1 = repeated + 1 + (c.maxRetries - repeated) by omega, List.range_add, List.range_succ,
        List.append_assoc]
      rfl
    rw [textOf, if_pos hstatus, houtput]
    refine (List.findSome?_eq_some_iff.mpr ⟨_, _, _, hrange, ?_, ?_⟩).symm
    · rw [hattempt]
      rfl
    · exact fun i hi => hbefore i (List.mem_range.mp hi)
  · rw [textOf, if_neg hstatus]
    refine (List.findSome?_eq_none_iff.mpr fun i hi => ?_).symm
    rw [List.mem_range, ← hlast, Nat.lt_succ_iff_lt_or_eq] at hi
    rcases hi with hi | rfl
    · exact hbefore i hi
    · rw [hattempt]
      rfl

/-- A request without a text has failed with its last attempt. -/
theorem fault_of_ends (h : (bench c scheduler e qs hkeys).Ends (job c q) t repeated)
    (hnone : firstText? c e q.result q.kind = none) : fault q.result t = lastFault c e q.result q.kind := by
  obtain ⟨-, ⟨text, -, hstatus, houtput⟩ | ⟨message, hattempt, hlast, -, herror⟩⟩ := last_attempt h
  · rw [← textOf_of_ends h, textOf, if_pos hstatus, houtput] at hnone
    cases hnone
  · rw [hlast] at hattempt
    have hattempts : t.attempts = c.maxRetries + 1 := by rw [h.attempts, hlast]
    simp only [fault, faultOn, lastFault, herror, hattempts, hattempt, Option.getD_some, Fault.new, Fault.atStage,
      Fault.forFile, Fault.forRule, Fault.onAttempt]

end Attempts

section Requests

variable {c : AssistantConfig} {e : Enhancer} {s : Simulation AssistRequest String}
  {p : Pool AssistRequest String} {config scheduler : SchedulerConfig} {q : AssistRequest} {qs : List AssistRequest}

/-- All requests are accepted, one task each. -/
theorem submit_eq (h : Bench.Unbegun config taskKind (handler e) s p) (hretries : s.scheduler.config.maxRetries = c.maxRetries)
    (htimeout : s.scheduler.config.taskTimeoutMs = c.timeoutMs) (qs : List AssistRequest) :
    ∃ s' p', submit s qs = (⟨qs.zipIdx s.scheduler.tasks.length, []⟩, s') ∧
      Bench.Unbegun config taskKind (handler e) s' p' ∧ s'.scheduler.tasks = s.scheduler.tasks ++ qs.map (job c) := by
  induction qs generalizing s p with
  | nil => exact ⟨s, p, rfl, h, by simp⟩
  | cons q rest ih =>
    obtain ⟨s₁, p₁, hadd, h₁, htasks₁, hconfig₁⟩ := h.add q { priority := priorityOf q.result }
    obtain ⟨s', p', hsubmit, h', htasks'⟩ := ih h₁ (hconfig₁ ▸ hretries) (hconfig₁ ▸ htimeout)
    have hjob : s.scheduler.newTask taskKind q { priority := priorityOf q.result } = job c q := by
      simp only [Scheduler.newTask, job, Option.getD_none, hretries, htimeout]
    have hlength : s₁.scheduler.tasks.length = s.scheduler.tasks.length + 1 := by
      rw [htasks₁, List.length_append, List.length_singleton]
    refine ⟨s', p', ?_, h', ?_⟩
    · simp only [submit, hadd, hsubmit, hlength, List.zipIdx_cons]
    · rw [htasks', htasks₁, hjob, List.map_cons, List.append_assoc]
      rfl

/-- Once the scheduler has settled, the task of every request has come to its end. -/
theorem ends_of_wait (h : Bench.Unbegun { scheduler with taskTimeoutMs := c.timeoutMs, maxRetries := c.maxRetries }
      taskKind (handler e) s p) (htasks : s.scheduler.tasks = qs.map (job c))
    (hkeys : (qs.map (handler e).key).Nodup) {i : Nat} (hq : qs[i]? = some q) :
    ∃ t repeated, s.start.wait.stop.scheduler.task? i = some t ∧
      (bench c scheduler e qs hkeys).Ends (job c q) t repeated := by
  have hworks : (bench c scheduler e qs hkeys).Works s.start := Bench.Unbegun.start h htasks
  obtain ⟨hdone, hsettled⟩ := hworks.wait
  have hjob : (bench c scheduler e qs hkeys).jobs[i]? = some (job c q) := by
    rw [bench, List.getElem?_map, hq, Option.map_some]
  obtain ⟨t, repeated, ht, hends⟩ := hdone.ends hsettled hjob
  refine ⟨t, repeated, ?_, hends⟩
  rw [Simulation.stop, Simulation.scheduler_wake]
  exact ht

/-- The texts that come, each with its request. -/
def texts (c : AssistantConfig) (e : Enhancer) (qs : List AssistRequest) : List (AssistRequest × String) :=
  qs.filterMap fun q => (firstText? c e q.result q.kind).map fun text => (q, text)

/-- The requests without a text. -/
def failing (c : AssistantConfig) (e : Enhancer) (qs : List AssistRequest) : List AssistRequest :=
  qs.filter fun q => (firstText? c e q.result q.kind).isNone

/-- The records of some requests tell their texts, and what is told of those that failed. -/
theorem texts_of_records (record : Nat → Option (Task AssistRequest String)) {n : Nat}
    (h : ∀ i q, qs[i]? = some q → ∃ t, record (n + i) = some t ∧ textOf t = firstText? c e q.result q.kind ∧
      (firstText? c e q.result q.kind = none → fault q.result t = lastFault c e q.result q.kind)) :
    let ended := (qs.zipIdx n).filterMap fun x => (record x.2).map fun t => (x.1, t)
    (ended.filterMap fun x => (textOf x.2).map fun text => (x.1, text)) = texts c e qs ∧
      ((ended.filter fun x => (textOf x.2).isNone).map fun x => fault x.1.result x.2) =
        (failing c e qs).map fun q => lastFault c e q.result q.kind := by
  induction qs generalizing n with
  | nil => exact ⟨rfl, rfl⟩
  | cons q rest ih =>
    obtain ⟨t, ht, htext, hfault⟩ := h 0 q rfl
    obtain ⟨htexts, hfaults⟩ := ih (n := n + 1) fun i q' hq' => by
      have hrest := h (i + 1) q' (by simpa using hq')
      rwa [show n + (i + 1) = n + 1 + i by omega] at hrest
    have hrecord : record n = some t := ht
    have hended : ((q :: rest).zipIdx n).filterMap (fun x => (record x.2).map fun t => (x.1, t)) =
        (q, t) :: (rest.zipIdx (n + 1)).filterMap fun x => (record x.2).map fun t => (x.1, t) := by
      simp only [List.zipIdx_cons, List.filterMap_cons, hrecord, Option.map_some]
    simp only [hended, List.filterMap_cons, List.filter_cons, htext, htexts]
    cases hfirst : firstText? c e q.result q.kind with
    | none =>
      refine ⟨by simp [texts, hfirst], ?_⟩
      simp only [Option.isNone_none, if_true, List.map_cons, hfaults, hfault hfirst]
      simp [failing, hfirst]
    | some text =>
      refine ⟨by simp [texts, hfirst], ?_⟩
      simp only [Option.isNone_some, Bool.false_eq_true, if_false, hfaults]
      simp [failing, hfirst]

end Requests

section Places

variable {c : AssistantConfig} {e : Enhancer} {results : List NormalizedResult} {r : NormalizedResult}

theorem kindsFor_eq (c : AssistantConfig) (r : NormalizedResult) : kindsFor c r = asked c r := by
  cases hexplanation : c.explanation <;> cases hsuggestion : c.suggestion <;>
    by_cases hadvice : (c.securityAdvice && r.main == .security) = true <;>
    simp [kindsFor, asked, kinds, isAsked, hexplanation, hsuggestion, hadvice]

theorem requests_eq (c : AssistantConfig) (results : List NormalizedResult) :
    requests c results = results.zipIdx.flatMap fun x => (asked c x.1).map fun kind => ⟨x.2, kind, x.1⟩ := by
  simp only [requests, kindsFor_eq]

theorem mem_requests {q : AssistRequest} :
    q ∈ requests c results ↔ results[q.place]? = some q.result ∧ isAsked c q.result q.kind = true := by
  rw [requests_eq, List.mem_flatMap]
  constructor
  · rintro ⟨⟨r, place⟩, hmem, hq⟩
    obtain ⟨kind, hkind, rfl⟩ := List.mem_map.mp hq
    exact ⟨List.mk_mem_zipIdx_iff_getElem?.mp hmem, (List.mem_filter.mp hkind).2⟩
  · rintro ⟨hplace, hasked⟩
    refine ⟨(q.result, q.place), List.mk_mem_zipIdx_iff_getElem?.mpr hplace, List.mem_map.mpr ⟨q.kind, ?_, rfl⟩⟩
    refine List.mem_filter.mpr ⟨?_, hasked⟩
    cases q.kind <;> decide

theorem key_inj {q q' : AssistRequest} (h : (handler e).key q = (handler e).key q') :
    q.kind = q'.kind ∧ q.place = q'.place := by
  have hkey : q.kind.name ++ ":" ++ q.place.repr = q'.kind.name ++ ":" ++ q'.place.repr := h
  by_cases hkind : q.kind = q'.kind
  · rw [hkind] at hkey
    exact ⟨hkind, eq_of_toList_repr (congrArg String.toList ((String.append_right_inj _).mp hkey))⟩
  · have hlist := congrArg (fun s => s.toList.take 2) hkey
    cases hk : q.kind <;> cases hk' : q'.kind <;> simp [hk, hk', AssistKind.name] at hlist hkind

/-- The requests have keys of their own. -/
theorem nodup_keys (c : AssistantConfig) (e : Enhancer) (results : List NormalizedResult) :
    ((requests c results).map (handler e).key).Nodup := by
  have hplaces : results.zipIdx.Pairwise fun x y => x.2 ≠ y.2 := by
    have hnodup : (results.zipIdx.map Prod.snd).Nodup := by
      rw [List.zipIdx_map_snd]
      exact List.nodup_range'
    exact List.pairwise_map.mp hnodup
  have hasked : ∀ r, (asked c r).Nodup := fun r => List.Nodup.filter _ (by decide)
  rw [requests_eq, List.map_flatMap, List.nodup_flatMap]
  constructor
  · rintro x -
    rw [List.map_map]
    exact List.Nodup.map_on (fun k _ k' _ h => (key_inj h).1) (hasked x.1)
  · refine hplaces.imp fun {x y} hne key hx hy => ?_
    simp only [List.mem_map] at hx hy
    obtain ⟨q, ⟨kind, -, rfl⟩, rfl⟩ := hx
    obtain ⟨q', ⟨kind', -, rfl⟩, hsame⟩ := hy
    exact hne (key_inj hsame).2.symm

/-- The texts of the requests for a result, by their places and kinds. -/
theorem mem_texts {x : AssistRequest × String} :
    x ∈ texts c e (requests c results) ↔
      results[x.1.place]? = some x.1.result ∧ text? c e x.1.result x.1.kind = some x.2 := by
  obtain ⟨q, text⟩ := x
  rw [texts, List.mem_filterMap, text?]
  constructor
  · rintro ⟨q', hq', hx⟩
    obtain ⟨text', hfirst, hpair⟩ := Option.map_eq_some_iff.mp hx
    obtain ⟨rfl, rfl⟩ := Prod.mk.inj hpair
    obtain ⟨hplace, hasked⟩ := mem_requests.mp hq'
    exact ⟨hplace, by rw [if_pos hasked, hfirst]⟩
  · rintro ⟨hplace, htext⟩
    split at htext
    case isTrue hasked => exact ⟨q, mem_requests.mpr ⟨hplace, hasked⟩, by rw [htext, Option.map_some]⟩
    case isFalse => cases htext

/-- A result finds its texts by its place. -/
theorem find?_texts {place : Nat} (hr : results[place]? = some r) (kind : AssistKind) :
    ((texts c e (requests c results)).find? fun t => t.1.place = place ∧ t.1.kind = kind).map (·.2) =
      text? c e r kind := by
  cases hfind : (texts c e (requests c results)).find? fun t => t.1.place = place ∧ t.1.kind = kind with
  | none =>
    cases htext : text? c e r kind with
    | none => rfl
    | some text =>
      have hmem : ((⟨place, kind, r⟩, text) : AssistRequest × String) ∈ texts c e (requests c results) :=
        mem_texts.mpr ⟨hr, htext⟩
      exact absurd (by simp) (List.find?_eq_none.mp hfind _ hmem)
  | some x =>
    obtain ⟨hplace, htext⟩ := mem_texts.mp (List.mem_of_find?_eq_some hfind)
    have hfound := List.find?_some hfind
    simp only [decide_eq_true_eq] at hfound
    obtain ⟨rfl, rfl⟩ := hfound
    obtain rfl : r = x.1.result := Option.some.inj (hr.symm.trans hplace)
    exact htext.symm

theorem any_texts {place : Nat} (hr : results[place]? = some r) :
    ((texts c e (requests c results)).any fun t => t.1.place = place) =
      kinds.any fun kind => (text? c e r kind).isSome := by
  rw [Bool.eq_iff_iff, List.any_eq_true, List.any_eq_true]
  constructor
  · rintro ⟨x, hx, hplace⟩
    obtain ⟨hresult, htext⟩ := mem_texts.mp hx
    rw [of_decide_eq_true hplace] at hresult
    obtain rfl : r = x.1.result := Option.some.inj (hr.symm.trans hresult)
    refine ⟨x.1.kind, ?_, by rw [htext, Option.isSome_some]⟩
    cases x.1.kind <;> decide
  · rintro ⟨kind, -, hsome⟩
    obtain ⟨text, htext⟩ := Option.isSome_iff_exists.mp hsome
    exact ⟨(⟨place, kind, r⟩, text), mem_texts.mpr ⟨hr, htext⟩, decide_eq_true rfl⟩

theorem flatMap_zipIdx {β : Type} (f : NormalizedResult → List β) (results : List NormalizedResult) :
    (results.zipIdx.flatMap fun x => f x.1) = results.flatMap f := by
  rw [← List.flatMap_map, List.zipIdx_map_fst]

theorem length_requests (c : AssistantConfig) (results : List NormalizedResult) :
    (requests c results).length = (results.flatMap (asked c)).length := by
  have hkinds : (requests c results).map (·.kind) = results.flatMap (asked c) := by
    simp only [requests_eq, List.map_flatMap, List.map_map, Function.comp_def, List.map_id']
    exact flatMap_zipIdx (asked c) results
  rw [← hkinds, List.length_map]

/-- The requests without a text are those for the texts that never come, in order. -/
theorem map_failing {β : Type} (c : AssistantConfig) (e : Enhancer) (results : List NormalizedResult)
    (f : NormalizedResult → AssistKind → β) :
    ((failing c e (requests c results)).map fun q => f q.result q.kind) =
      results.flatMap fun r => (missing c e r).map (f r) := by
  simp only [failing, requests_eq, List.filter_flatMap, List.filter_map, List.map_flatMap, List.map_map]
  exact flatMap_zipIdx (fun r => (missing c e r).map (f r)) results

theorem length_failing (c : AssistantConfig) (e : Enhancer) (results : List NormalizedResult) :
    (failing c e (requests c results)).length = (results.flatMap (missing c e)).length := by
  have hkinds := map_failing c e results fun _ kind => kind
  simp only [List.map_id'] at hkinds
  rw [← hkinds, List.length_map]

theorem countP_texts (c : AssistantConfig) (e : Enhancer) (results : List NormalizedResult) :
    ((List.range results.length).countP fun place =>
        (texts c e (requests c results)).any fun t => t.1.place = place) =
      results.countP fun r => kinds.any fun kind => (text? c e r kind).isSome := by
  rw [← countP_range_getElem? _ results]
  refine List.countP_congr fun place hplace => ?_
  have hr : results[place]? = some (results.get ⟨place, List.mem_range.mp hplace⟩) := List.getElem?_eq_getElem _
  rw [any_texts hr, hr, Option.any_some]

/-- A result without texts gets those that come for it. -/
theorem map_assist (hplain : ∀ r ∈ results, r.assistance = {}) :
    (results.zipIdx.map fun x => x.1.assist (assistanceAt (texts c e (requests c results)) x.2)) =
      results.map fun r => { r with
        assistance := ⟨text? c e r .explanation, text? c e r .suggestion, text? c e r .securityAdvice⟩ } := by
  have hfst : results.zipIdx.map Prod.fst = results := List.zipIdx_map_fst 0 results
  nth_rewrite 3 [← hfst]
  rw [List.map_map]
  refine List.map_congr_left ?_
  rintro ⟨r, place⟩ hmem
  have hr := List.mk_mem_zipIdx_iff_getElem?.mp hmem
  have hnone := hplain r (List.mem_of_getElem? hr)
  simp only [NormalizedResult.assist, assistanceAt, find?_texts hr, hnone, Assistance.update, Option.or_none,
    Function.comp_apply]

end Places

/-- All that a run gives, by the first texts of its requests. -/
theorem run_eq (c : AssistantConfig) (scheduler : SchedulerConfig) (e : Enhancer) (results : List NormalizedResult)
    (recovery : Recovery) :
    run c scheduler e results recovery =
      { results := results.zipIdx.map fun x => x.1.assist (assistanceAt (texts c e (requests c results)) x.2)
        recovery := recovery.recordAll
          ((failing c e (requests c results)).map fun q => lastFault c e q.result q.kind)
        requested := (requests c results).length
        enhanced := (List.range results.length).countP fun place =>
          (texts c e (requests c results)).any fun t => t.1.place = place
        failed := (failing c e (requests c results)).length } := by
  have hkeys := nodup_keys c e results
  obtain ⟨s, p, hsubmit, hunbegun, htasks⟩ := submit_eq (c := c)
    (Bench.Unbegun.register { scheduler with taskTimeoutMs := c.timeoutMs, maxRetries := c.maxRetries } taskKind
      (handler e)) rfl rfl (requests c results)
  generalize hall : requests c results = qs at hkeys hsubmit htasks
  let settled := if qs.zipIdx.isEmpty then s else s.start.wait.stop
  let ended := qs.zipIdx.filterMap fun x => (settled.scheduler.task? x.2).map fun t => (x.1, t)
  have hrun : run c scheduler e results recovery =
      { results := results.zipIdx.map fun x => x.1.assist (assistanceAt
          (ended.filterMap fun x => (textOf x.2).map fun text => (x.1, text)) x.2)
        recovery := recovery.recordAll
          ((ended.filter fun x => (textOf x.2).isNone).map fun x => fault x.1.result x.2)
        requested := qs.length
        enhanced := (List.range results.length).countP fun place =>
          (ended.filterMap fun x => (textOf x.2).map fun text => (x.1, text)).any fun t => t.1.place = place
        failed := ((ended.filter fun x => (textOf x.2).isNone).map fun x => fault x.1.result x.2).length } := by
    simp only [run, hall, hsubmit, List.nil_append, List.length_nil, Nat.zero_add, List.length_map]
    rfl
  have hrecords : ∀ i q, qs[i]? = some q → ∃ t, settled.scheduler.task? (0 + i) = some t ∧
      textOf t = firstText? c e q.result q.kind ∧
      (firstText? c e q.result q.kind = none → fault q.result t = lastFault c e q.result q.kind) := by
    intro i q hq
    obtain ⟨t, repeated, ht, hends⟩ := ends_of_wait hunbegun htasks hkeys hq
    refine ⟨t, ?_, textOf_of_ends hends, fault_of_ends hends⟩
    have hsome : qs.zipIdx.isEmpty = false := by
      cases qs with
      | nil => cases hq
      | cons q rest => rfl
    simp only [settled, hsome, Nat.zero_add]
    exact ht
  obtain ⟨htexts, hfaults⟩ := texts_of_records settled.scheduler.task? hrecords
  rw [hrun, htexts, hfaults, List.length_map]

/-- What the assistant stage writes: for every result and every kind of text that is asked for, the text
of the first attempt that gave one in time, trimmed, or nothing if no attempt did. The counts are those
of the texts that were asked for, of those that never came and of the results that got one; every
text that never came leaves one fault, in order. None of this depends on the settings of the
scheduler. An attempt counter of 32 bits counts exactly this as long as there are fewer than `2 ^ 32 - 1`
retries, by the bound on attempts. -/
theorem first_texts_are_written (c : AssistantConfig) (scheduler : SchedulerConfig) (e : Enhancer)
    (results : List NormalizedResult) (recovery : Recovery) (hplain : ∀ r ∈ results, r.assistance = {}) :
    let after := run c scheduler e results recovery
    after.results = results.map (fun r => { r with
        assistance := ⟨text? c e r .explanation, text? c e r .suggestion, text? c e r .securityAdvice⟩ }) ∧
      after.requested = (results.flatMap (asked c)).length ∧
      after.failed = (results.flatMap (missing c e)).length ∧
      after.enhanced = results.countP (fun r => kinds.any fun kind => (text? c e r kind).isSome) ∧
      after.recovery = recovery.recordAll (results.flatMap fun r => (missing c e r).map (lastFault c e r)) ∧
      ∀ other, run c other e results recovery = after := by
  intro after
  have hafter : after = _ := run_eq c scheduler e results recovery
  rw [hafter]
  exact ⟨map_assist hplain, length_requests c results, length_failing c e results, countP_texts c e results,
    congrArg recovery.recordAll (map_failing c e results (lastFault c e)),
    fun other => run_eq c other e results recovery⟩

/-- A key that lies open in a program. -/
def openKey : NormalizedResult :=
  { (default : NormalizedResult) with file := "app.py", main := .security, rule := "hardcoded-secret", severity := .high }

/-- A name that is too short. -/
def shortName : NormalizedResult :=
  { (default : NormalizedResult) with file := "util.py", main := .standards, rule := "naming", severity := .low }

/-- An assistant that is slow with its first explanation, has no suggestions, and loses its advice twice. -/
def fitfulAssistant : Enhancer
  | .explanation, r, call =>
    if call = 1 then ⟨100, .output "late"⟩ else ⟨99, .output ("  See " ++ r.rule ++ ".\n")⟩
  | .suggestion, _, call => ⟨0, .output (if call = 1 then "" else " ")⟩
  | .securityAdvice, _, call => ⟨5, if call ≤ 2 then .panic "lost" else .output "Rotate the key."⟩

/-- Explanations come with the second attempt and advice with the third, and both suggestions fail. -/
theorem fitfulAssistant_writes :
    let c : AssistantConfig := { timeoutMs := 100, maxRetries := 2 }
    let after := run c { maxConcurrency := 1 } fitfulAssistant [openKey, shortName] {}
    (∀ r ∈ [openKey, shortName], r.assistance = {}) ∧
      after.results.map (·.assistance) =
        [⟨some "See hardcoded-secret.", none, some "Rotate the key."⟩, ⟨some "See naming.", none, none⟩] ∧
      after.requested = 5 ∧ after.failed = 2 ∧ after.enhanced = 2 ∧
      after.recovery.log.map (fun f => (f.kind, f.file, f.attempt)) =
        [(.assistantValidation, some "app.py", some 3), (.assistantValidation, some "util.py", some 3)] ∧
      ∀ other, run c other fitfulAssistant [openKey, shortName] {} = after := by
  intro c after
  have hplain : ∀ r ∈ [openKey, shortName], r.assistance = {} := by decide
  obtain ⟨hresults, hrequested, hfailed, henhanced, hrecovery, hothers⟩ :=
    first_texts_are_written c { maxConcurrency := 1 } fitfulAssistant [openKey, shortName] {} hplain
  refine ⟨hplain, ?_, ?_, ?_, ?_, ?_, hothers⟩
  · rw [hresults]
    decide +kernel
  · rw [hrequested]
    decide +kernel
  · rw [hfailed]
    decide +kernel
  · rw [henhanced]
    decide +kernel
  · rw [hrecovery]
    decide +kernel

end CodeAudit.Enhancement
