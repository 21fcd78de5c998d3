import CodeAudit.Tasks.Basic
import Mathlib.Data.UInt
import Mathlib.Order.Monotone.Basic

/-! The delay before a failed task is tried again. It doubles from the base delay up to the longest wait; that the
doubling stops after 31 steps, and that a product may not fit its words, cannot be seen. -/
namespace CodeAudit

variable {baseMs n : Nat}

/-- Even one millisecond is longer than the longest wait once it has been doubled 31 times. -/
theorem maxBackoffMs_le_doubled (hbase : 0 < baseMs) (hn : 31 ≤ n) : maxBackoffMs ≤ baseMs * 2 ^ n :=
  calc maxBackoffMs ≤ 1 * 2 ^ 31 := by decide
    _ ≤ baseMs * 2 ^ n := Nat.mul_le_mul hbase (Nat.pow_le_pow_right (by decide) hn)

theorem min_doubled_clamped (baseMs n : Nat) :
    min (baseMs * 2 ^ min n 31) maxBackoffMs = min (baseMs * 2 ^ n) maxBackoffMs := by
  rcases Nat.le_total n 31 with hn | hn
  · rw [Nat.min_eq_left hn]
  · rcases Nat.eq_zero_or_pos baseMs with rfl | hbase
    · simp
    · rw [Nat.min_eq_right hn, Nat.min_eq_right (maxBackoffMs_le_doubled hbase le_rfl),
        Nat.min_eq_right (maxBackoffMs_le_doubled hbase hn)]

theorem backoffMs_eq_min (baseMs attempt : Nat) :
    backoffMs baseMs attempt = min (baseMs * 2 ^ (attempt - 1)) maxBackoffMs := by
  rw [← min_doubled_clamped, ← Nat.shiftLeft_eq]
  unfold backoffMs
  simp only
  split
  case isTrue => rfl
  case isFalse hlarge =>
    -- What counts as the longest wait here has more whole seconds than that.
    have hlong : maxBackoffMs ≤ baseMs <<< min (attempt - 1) 31 := by
      simp only [maxDelaySeconds, bound64, maxBackoffMs] at hlarge ⊢
      omega
    rw [Nat.min_eq_right hlong]

theorem backoffMs_mono (baseMs : Nat) : Monotone (backoffMs baseMs) := by
  intro attempt later h
  rw [backoffMs_eq_min, backoffMs_eq_min]
  have hpow : 2 ^ (attempt - 1) ≤ 2 ^ (later - 1) := Nat.pow_le_pow_right (by decide) (Nat.sub_le_sub_right h 1)
  have hproduct := Nat.mul_le_mul_left baseMs hpow
  omega

/-- A length of time in words: whole seconds, and the nanoseconds beyond them. -/
structure Duration where
  seconds : UInt64
  nanos : UInt32
  nanos_lt : nanos.toNat < 1000000000

namespace Duration

variable {d e : Duration}

def nanosPerSecond : Nat := 1000000000

def nanosPerMilli : Nat := 1000000

/-- The length as one number. -/
def toNanos (d : Duration) : Nat := d.seconds.toNat * nanosPerSecond + d.nanos.toNat

theorem toNat_millis (ms : UInt64) : ((ms % 1000).toUInt32 * 1000000).toNat = ms.toNat % 1000 * 1000000 := by
  have hmod : ms.toNat % 1000 < 1000 := Nat.mod_lt _ (by decide)
  rw [UInt32.toNat_mul, UInt64.toNat_toUInt32, UInt64.toNat_mod]
  change ms.toNat % 1000 % 2 ^ 32 * 1000000 % 2 ^ 32 = _
  rw [Nat.mod_eq_of_lt (a := ms.toNat % 1000) (by omega), Nat.mod_eq_of_lt (by omega)]

def ofMillis (ms : UInt64) : Duration where
  seconds := ms / 1000
  nanos := (ms % 1000).toUInt32 * 1000000
  nanos_lt := by
    rw [toNat_millis]
    omega

theorem toNanos_ofMillis (ms : UInt64) : (ofMillis ms).toNanos = ms.toNat * nanosPerMilli := by
  have hseconds : (ms / 1000).toNat = ms.toNat / 1000 := UInt64.toNat_div ms 1000
  simp only [toNanos, ofMillis, nanosPerSecond, nanosPerMilli, toNat_millis, hseconds]
  omega

/-- A product of words, unless it does not fit a word. -/
def mulWords? (a b : UInt64) : Option UInt64 := if a.toNat * b.toNat < bound64 then some (a * b) else none

/-- A sum of words, unless it does not fit a word. -/
def addWords? (a b : UInt64) : Option UInt64 := if a.toNat + b.toNat < bound64 then some (a + b) else none

/-- Seconds, and what is left of a number of nanoseconds when its whole seconds are taken away. -/
def ofWords (seconds nanos : UInt64) : Duration where
  seconds := seconds
  nanos := (nanos % 1000000000).toUInt32
  nanos_lt := by
    have hmod : (nanos % 1000000000).toNat < 1000000000 := by
      rw [UInt64.toNat_mod]
      exact Nat.mod_lt _ (by decide)
    rw [UInt64.toNat_toUInt32]
    omega

theorem toNanos_ofWords (seconds nanos : UInt64) :
    (ofWords seconds nanos).toNanos = seconds.toNat * nanosPerSecond + nanos.toNat % nanosPerSecond := by
  have hmod : nanos.toNat % nanosPerSecond < 2 ^ 32 :=
    (Nat.mod_lt _ (by decide)).trans (by decide : nanosPerSecond < 2 ^ 32)
  have hnanos : (nanos % 1000000000).toUInt32.toNat = nanos.toNat % nanosPerSecond := by
    rw [UInt64.toNat_toUInt32, UInt64.toNat_mod]
    exact Nat.mod_eq_of_lt hmod
  rw [toNanos, ← hnanos]
  rfl

/-- A multiple, unless its seconds do not fit their word. -/
def times? (d : Duration) (factor : UInt32) : Option Duration := do
  let nanos := d.nanos.toUInt64 * factor.toUInt64
  let whole ← mulWords? d.seconds factor.toUInt64
  let seconds ← addWords? whole (nanos / 1000000000)
  return ofWords seconds nanos

/-- One minute. -/
def longestWait : Duration := ⟨60, 0, by decide⟩

instance : LE Duration := ⟨fun d e => d.seconds < e.seconds ∨ d.seconds = e.seconds ∧ d.nanos ≤ e.nanos⟩

instance : DecidableLE Duration := fun d e =>
  inferInstanceAs (Decidable (d.seconds < e.seconds ∨ d.seconds = e.seconds ∧ d.nanos ≤ e.nanos))

instance : Min Duration := minOfLe

/-- One doubling for each earlier attempt, up to 31. -/
def doublings (attempt : UInt32) : UInt32 := min (if attempt = 0 then 0 else attempt - 1) 31

/-- The delay after a failed attempt, worked out in words. -/
def backoff (base : Duration) (attempt : UInt32) : Duration :=
  min ((base.times? (1 <<< doublings attempt)).getD longestWait) longestWait

theorem le_iff_toNanos : d ≤ e ↔ d.toNanos ≤ e.toNanos := by
  have hd := d.nanos_lt
  have he := e.nanos_lt
  change d.seconds < e.seconds ∨ d.seconds = e.seconds ∧ d.nanos ≤ e.nanos ↔ _
  rw [UInt64.lt_iff_toNat_lt, ← UInt64.toNat_inj, UInt32.le_iff_toNat_le]
  simp only [toNanos, nanosPerSecond]
  omega

theorem toNanos_min (d e : Duration) : (min d e).toNanos = min d.toNanos e.toNanos := by
  change (if d ≤ e then d else e).toNanos = _
  simp only [le_iff_toNanos, Nat.min_def]
  split <;> rfl

/-- The nanoseconds beyond the seconds are less than 2 to the 30, so that a multiple of them fits 64 bits. -/
theorem toNat_nanos_mul (d : Duration) (factor : UInt32) :
    (d.nanos.toUInt64 * factor.toUInt64).toNat = d.nanos.toNat * factor.toNat := by
  have hnanos := d.nanos_lt
  have hfactor := factor.toNat_lt
  have hproduct : d.nanos.toNat * factor.toNat < 2 ^ 30 * 2 ^ 32 :=
    Nat.mul_lt_mul'' (hnanos.trans (by decide)) hfactor
  rw [UInt64.toNat_mul, UInt32.toNat_toUInt64, UInt32.toNat_toUInt64]
  exact Nat.mod_eq_of_lt (hproduct.trans (by decide))

theorem mulWords?_eq (a b : UInt64) : (∃ c, mulWords? a b = some c ∧ c.toNat = a.toNat * b.toNat) ∨
    mulWords? a b = none ∧ bound64 ≤ a.toNat * b.toNat := by
  unfold mulWords?
  split
  case isTrue hfits => exact .inl ⟨a * b, rfl, (UInt64.toNat_mul a b).trans (Nat.mod_eq_of_lt hfits)⟩
  case isFalse hlarge => exact .inr ⟨rfl, Nat.le_of_not_lt hlarge⟩

theorem addWords?_eq (a b : UInt64) : (∃ c, addWords? a b = some c ∧ c.toNat = a.toNat + b.toNat) ∨
    addWords? a b = none ∧ bound64 ≤ a.toNat + b.toNat := by
  unfold addWords?
  split
  case isTrue hfits => exact .inl ⟨a + b, rfl, (UInt64.toNat_add a b).trans (Nat.mod_eq_of_lt hfits)⟩
  case isFalse hlarge => exact .inr ⟨rfl, Nat.le_of_not_lt hlarge⟩

/-- Too many whole seconds are too many nanoseconds. -/
theorem le_of_whole {seconds nanos : Nat} (h : bound64 ≤ seconds + nanos / nanosPerSecond) :
    bound64 * nanosPerSecond ≤ seconds * nanosPerSecond + nanos :=
  calc bound64 * nanosPerSecond
      ≤ (seconds + nanos / nanosPerSecond) * nanosPerSecond := Nat.mul_le_mul_right _ h
    _ = seconds * nanosPerSecond + nanos / nanosPerSecond * nanosPerSecond := Nat.add_mul ..
    _ ≤ seconds * nanosPerSecond + nanos := Nat.add_le_add_left (Nat.div_mul_le_self ..) _

/-- A multiple is exact, and missing just where it is longer than any length in words. -/
theorem times?_eq (d : Duration) (factor : UInt32) :
    (∃ e, d.times? factor = some e ∧ e.toNanos = d.toNanos * factor.toNat) ∨
      d.times? factor = none ∧ bound64 * nanosPerSecond ≤ d.toNanos * factor.toNat := by
  have hnanos := toNat_nanos_mul d factor
  have hcarry : (d.nanos.toUInt64 * factor.toUInt64 / 1000000000).toNat =
      d.nanos.toNat * factor.toNat / nanosPerSecond := by
    rw [UInt64.toNat_div, hnanos]
    rfl
  have hexpand : d.toNanos * factor.toNat =
      d.seconds.toNat * factor.toNat * nanosPerSecond + d.nanos.toNat * factor.toNat := by
    rw [toNanos, Nat.add_mul, Nat.mul_right_comm]
  rw [hexpand]
  rcases mulWords?_eq d.seconds factor.toUInt64 with ⟨whole, hwhole, hwholeNat⟩ | ⟨hwhole, hlarge⟩
  · rw [UInt32.toNat_toUInt64] at hwholeNat
    rcases addWords?_eq whole (d.nanos.toUInt64 * factor.toUInt64 / 1000000000) with
      ⟨seconds, hseconds, hsecondsNat⟩ | ⟨hseconds, hlarge⟩
    · refine .inl ⟨ofWords seconds (d.nanos.toUInt64 * factor.toUInt64), ?_, ?_⟩
      · simp only [times?, hwhole, hseconds, Option.bind_eq_bind, Option.bind_some, Option.pure_def]
      · rw [toNanos_ofWords, hsecondsNat, hwholeNat, hcarry, hnanos, Nat.add_mul, Nat.add_assoc, Nat.div_add_mod']
    · refine .inr ⟨?_, le_of_whole ?_⟩
      · simp only [times?, hwhole, hseconds, Option.bind_eq_bind, Option.bind_some, Option.bind_none]
      · rwa [hwholeNat, hcarry] at hlarge
  · rw [UInt32.toNat_toUInt64] at hlarge
    refine .inr ⟨?_, le_of_whole (Nat.le_add_right_of_le hlarge)⟩
    simp only [times?, hwhole, Option.bind_eq_bind, Option.bind_none]

/-- The tenth doubling of the longest base delay is more than the words hold. -/
example : (ofMillis 18446744073709551615).times? 1024 = none ∧
    ((ofMillis 18446744073709551615).times? 512).isSome := by
  decide

theorem toNat_shiftLeft_one {n : UInt32} (h : n.toNat ≤ 31) : ((1 : UInt32) <<< n).toNat = 2 ^ n.toNat := by
  rw [UInt32.toNat_shiftLeft, Nat.mod_eq_of_lt (by omega : n.toNat < 32), Nat.shiftLeft_eq]
  have hpow : 2 ^ n.toNat ≤ 2 ^ 31 := Nat.pow_le_pow_right (by decide) h
  change 1 * 2 ^ n.toNat % 2 ^ 32 = _
  omega

theorem toNat_doublings (attempt : UInt32) : (doublings attempt).toNat = min (attempt.toNat - 1) 31 := by
  rw [doublings, UInt32.toNat_min]
  congr 1
  split
  case isTrue hzero => rw [hzero]; rfl
  case isFalse hne =>
    have hone : (1 : UInt32) ≤ attempt := by
      rw [UInt32.le_iff_toNat_le]
      exact Nat.one_le_iff_ne_zero.mpr fun h => hne (UInt32.toNat_inj.mp h)
    exact UInt32.toNat_sub_of_le _ _ hone

/-- A product that does not fit its words is longer than a minute, so that a minute may stand for it. -/
theorem toNanos_backoff (base : Duration) (attempt : UInt32) :
    (base.backoff attempt).toNanos = min (base.toNanos * 2 ^ min (attempt.toNat - 1) 31) longestWait.toNanos := by
  have hdoublings := toNat_doublings attempt
  have hfactor := toNat_shiftLeft_one (hdoublings.trans_le (Nat.min_le_right ..))
  rw [hdoublings] at hfactor
  rw [backoff, toNanos_min, ← hfactor]
  rcases times?_eq base (1 <<< doublings attempt) with ⟨e, he, hlength⟩ | ⟨he, hlarge⟩
  · rw [he, Option.getD_some, hlength]
  · have hlong : longestWait.toNanos ≤ bound64 * nanosPerSecond := by decide
    rw [he, Option.getD_none, Nat.min_self, Nat.min_eq_right (hlong.trans hlarge)]

/-- Words and unbounded numbers of milliseconds give the same delay. -/
theorem toNanos_backoff_ofMillis (base : UInt64) (attempt : UInt32) :
    ((ofMillis base).backoff attempt).toNanos = backoffMs base.toNat attempt.toNat * nanosPerMilli := by
  have hwait : longestWait.toNanos = maxBackoffMs * nanosPerMilli := by decide
  rw [toNanos_backoff, toNanos_ofMillis, hwait, Nat.mul_right_comm, Nat.mul_min_mul_right, min_doubled_clamped,
    backoffMs_eq_min]

end Duration

/-- For every base delay of whole milliseconds and every attempt, the delay that is worked out in words, with bounds on
both the doublings and the product, is the base delay doubled without any bounds up to one minute. -/
theorem delay_doubles_up_to_minute (base : UInt64) (attempt : UInt32) :
    ((Duration.ofMillis base).backoff attempt).toNanos =
        backoffMs base.toNat attempt.toNat * Duration.nanosPerMilli ∧
      backoffMs base.toNat attempt.toNat = min (base.toNat * 2 ^ (attempt.toNat - 1)) 60000 ∧
      (∀ later : UInt32, attempt ≤ later → backoffMs base.toNat attempt.toNat ≤ backoffMs base.toNat later.toNat) ∧
      backoffMs base.toNat attempt.toNat ≤ 60000 := by
  have hmin := backoffMs_eq_min base.toNat attempt.toNat
  refine ⟨Duration.toNanos_backoff_ofMillis base attempt, hmin, ?_, ?_⟩
  · intro later h
    exact backoffMs_mono base.toNat (UInt32.le_iff_toNat_le.mp h)
  · rw [hmin]
    exact Nat.min_le_right _ _

/-- One millisecond has become half a minute at the sixteenth attempt, and the last attempt of all waits no less. -/
theorem millisecond_doubles : (16 : UInt32) ≤ 4294967295 ∧ backoffMs 1 16 = 32768 ∧
    backoffMs 1 16 ≤ backoffMs 1 4294967295 := by
  obtain ⟨-, hdelay, hlater, -⟩ := delay_doubles_up_to_minute 1 16
  have hle : (16 : UInt32) ≤ 4294967295 := by decide
  exact ⟨hle, hdelay, hlater 4294967295 hle⟩

end CodeAudit
