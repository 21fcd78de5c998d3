import Mathlib.Tactic.Ring

/-! Percentages of counts, as floating-point numbers. Counts of up to 53 bits and their products are held
exactly; a quotient is rounded once, to one of its two neighbours. That is close enough to tell a quotient
that reaches ten from one that does not. -/
namespace CodeAudit.Percentage

open Float.Model Float.Model.UnpackedFloat

section Scaled

variable {n : Nat}

/-- A count with as many zeros behind it as there is room for in 53 bits. -/
def scaled (n : Nat) : Nat := n * 2 ^ (52 - n.log2)

theorem scaled_bounds (hn : 0 < n) (hsmall : n < 2 ^ 53) : 2 ^ 52 ≤ scaled n ∧ scaled n < 2 ^ 53 := by
  have hlog : n.log2 < 53 := (Nat.log2_lt hn.ne').mpr hsmall
  have hlow : 2 ^ n.log2 ≤ n := Nat.log2_self_le hn.ne'
  have hhigh : n < 2 ^ (n.log2 + 1) := Nat.lt_log2_self
  have hroom : n.log2 + (52 - n.log2) = 52 := by omega
  constructor
  · calc 2 ^ 52 = 2 ^ n.log2 * 2 ^ (52 - n.log2) := by rw [← pow_add, hroom]
      _ ≤ n * 2 ^ (52 - n.log2) := Nat.mul_le_mul_right _ hlow
  · calc n * 2 ^ (52 - n.log2) < 2 ^ (n.log2 + 1) * 2 ^ (52 - n.log2) :=
        Nat.mul_lt_mul_of_pos_right hhigh (Nat.two_pow_pos _)
      _ = 2 ^ 53 := by rw [← pow_add, Nat.add_right_comm, hroom]

theorem log2_of_bounds {m : Nat} (hlow : 2 ^ 52 ≤ m) (hhigh : m < 2 ^ 53) : m.log2 = 52 :=
  (Nat.log2_eq_iff (by omega)).mpr ⟨hlow, hhigh⟩

theorem log2_scaled (hn : 0 < n) (hsmall : n < 2 ^ 53) : (scaled n).log2 = 52 :=
  log2_of_bounds (scaled_bounds hn hsmall).1 (scaled_bounds hn hsmall).2

end Scaled

section Packing

theorem unpackSign_positive (e : BitVec 11) (m : BitVec 52) :
    unpackSign (packComponents Format.binary64 .positive e m) = Sign.positive.toBitVec := by
  change (Sign.positive.toBitVec ++ e ++ m).extractLsb' 63 1 = _
  rw [BitVec.extractLsb'_append_eq_of_le (by decide), BitVec.extractLsb'_append_eq_of_le (by decide)]
  rfl

variable {m : Nat} {e : Int}

theorem exponentBias_binary64 : (Format.binary64.exponentBias : Int) + (52 : Nat) = 1075 := rfl

/-- The first bit of 53 is not kept. -/
theorem toNat_append_ofNat (hm : m.log2 = 52) : (1#1 ++ BitVec.ofNat 52 m).toNat = m := by
  have hm0 : m ≠ 0 := by
    rintro rfl
    cases hm
  obtain ⟨hlow, hhigh⟩ := (Nat.log2_eq_iff hm0).mp hm
  rw [BitVec.toNat_append, ← Nat.shiftLeft_add_eq_or_of_lt (BitVec.isLt _), BitVec.toNat_ofNat, BitVec.toNat_ofNat,
    Nat.shiftLeft_eq]
  omega

theorem pack_finite (h : 0 < m) (hm : m.log2 = 52) (hlow : -1074 ≤ e) (hhigh : e < 971) :
    UnpackedFloat.pack Format.binary64 (.finite .positive m e h) =
      packComponents Format.binary64 .positive (BitVec.ofNat 11 (e + 1075).toNat) (BitVec.ofNat 52 m) := by
  unfold UnpackedFloat.pack
  simp only [Int.add_assoc, exponentBias_binary64, hm]
  rw [if_neg (by simp only [Nat.not_le]; omega), if_pos (by rfl)]

/-- A positive number with 53 bits is read back from the bits in which it is kept. -/
theorem unpack_pack (h : 0 < m) (hm : m.log2 = 52) (hlow : -1074 ≤ e) (hhigh : e < 971) :
    (Float.Model.pack (.finite .positive m e h)).unpack = .finite .positive m e h := by
  have hexponent : (BitVec.ofNat 11 (e + 1075).toNat).toNat = (e + 1075).toNat := by
    rw [BitVec.toNat_ofNat, Nat.mod_eq_of_lt (by omega)]
  have hne : ∀ w : BitVec 11, w.toNat ≠ (e + 1075).toNat → BitVec.ofNat 11 (e + 1075).toNat ≠ w := by
    rintro w hw rfl
    exact hw hexponent
  have hfinite : BitVec.ofNat 11 (e + 1075).toNat ≠ -1#11 := hne _ (by change 2047 ≠ _; omega)
  have hnormal : BitVec.ofNat 11 (e + 1075).toNat ≠ 0#11 := hne _ (by change 0 ≠ _; omega)
  change UnpackedFloat.unpack Format.binary64 (UnpackedFloat.pack Format.binary64 _) = _
  rw [pack_finite h hm hlow hhigh]
  unfold UnpackedFloat.unpack
  dsimp only
  rw [if_neg (by rwa [unpackExponent_packComponents]), if_neg (by rwa [unpackExponent_packComponents]),
    UnpackedFloat.finite.injEq, unpackSign_positive, unpackMantissa_packComponents, unpackExponent_packComponents,
    hexponent, exponentBias_binary64]
  exact ⟨rfl, toNat_append_ofNat hm, by omega⟩

end Packing

section Rounding

variable {m k : Nat} {e : Int}

theorem shift_succ (em : ExtendedMantissa) (k : Nat) : em >>> (k + 1) = (em >>> k).shiftRightOne := rfl

theorem mantissa_shift (em : ExtendedMantissa) (k : Nat) : (em >>> k).mantissa = em.mantissa / 2 ^ k := by
  induction k with
  | zero => exact (Nat.div_one _).symm
  | succ k ih => rw [shift_succ, ExtendedMantissa.shiftRightOne, ih, Nat.div_div_eq_div_mul, ← pow_succ]

/-- Zeros are shifted out without a trace. -/
theorem shift_exact (m k : Nat) : (⟨m * 2 ^ k, false, false⟩ : ExtendedMantissa) >>> k = ⟨m, false, false⟩ := by
  induction k generalizing m with
  | zero => simp only [pow_zero, mul_one]; rfl
  | succ k ih =>
    rw [shift_succ, pow_succ, mul_comm (2 ^ k) 2, ← mul_assoc, ih, ExtendedMantissa.shiftRightOne]
    simp

theorem roundedMantissa_bounds (em : ExtendedMantissa) :
    em.mantissa ≤ em.roundedMantissa ∧ em.roundedMantissa ≤ em.mantissa + 1 := by
  obtain ⟨m, round, sticky⟩ := em
  cases round <;> cases sticky <;>
    simp only [ExtendedMantissa.roundedMantissa, ExtendedMantissa.accuracy, Accuracy.roundToNearestEven] <;> omega

/-- The first 53 bits of a mantissa. -/
theorem leading_bounds (hm : m.log2 = 52 + k) : 2 ^ 52 ≤ m / 2 ^ k ∧ m / 2 ^ k < 2 ^ 53 := by
  have hm0 : m ≠ 0 := by
    rintro rfl
    simp at hm
    omega
  obtain ⟨hlow, hhigh⟩ := (Nat.log2_eq_iff hm0).mp hm
  constructor
  · rw [Nat.le_div_iff_mul_le (Nat.two_pow_pos _), ← pow_add]
    exact hlow
  · rw [Nat.div_lt_iff_lt_mul (Nat.two_pow_pos _), ← pow_add]
    exact lt_of_lt_of_eq hhigh (by ring)

theorem targetExponent_binary64 (e : Int) : Format.binary64.targetExponent e = max (e - 53) (-1074) := rfl

/-- The bits behind the first 53 are shifted out. -/
theorem shiftToTargetExponent_eq (hm : m.log2 = 52 + k) (hlow : -1074 ≤ e + k) (accuracy : Accuracy) :
    shiftToTargetExponent Format.binary64 m e accuracy =
      (ExtendedMantissa.ofMantissaAndAccuracy m accuracy >>> k, e + k) := by
  have htarget : Format.binary64.targetExponent (totalExponent m e) = e + k := by
    rw [targetExponent_binary64, totalExponent, hm]
    omega
  have hshift : (Format.binary64.targetExponent (totalExponent m e) - e).toNat = k := by omega
  rw [shiftToTargetExponent, shiftToExponent, hshift]

/-- A number is rounded by two shifts: the second one is for a mantissa that was rounded up to a bit more. -/
theorem roundWithAccuracy_of_shifts {spec : Format} {sign : Sign} {accuracy : Accuracy} {em em' : ExtendedMantissa}
    {e' e'' : Int} (hfirst : shiftToTargetExponent spec m e accuracy = (em, e'))
    (hsecond : shiftToTargetExponent spec em.roundedMantissa e' Accuracy.exact = (em', e'')) (hpos : 0 < em'.mantissa) :
    roundWithAccuracy spec sign m e accuracy = .finite sign em'.mantissa e'' hpos := by
  unfold roundWithAccuracy
  rw [hfirst]
  dsimp only
  rw [hsecond]
  exact dif_neg hpos.ne'

/-- A mantissa of at least 53 bits is rounded to one of its neighbours with 53 bits. -/
theorem roundWithAccuracy_eq (hm : m.log2 = 52 + k) (hlow : -1074 ≤ e + k) (accuracy : Accuracy) :
    ∃ r, m / 2 ^ k ≤ r ∧ r ≤ m / 2 ^ k + 1 ∧ 2 ^ 52 ≤ r ∧ r ≤ 2 ^ 53 ∧
      r = (ExtendedMantissa.ofMantissaAndAccuracy m accuracy >>> k).roundedMantissa ∧
      (∀ hr : 0 < r, r < 2 ^ 53 →
        roundWithAccuracy Format.binary64 .positive m e accuracy = .finite .positive r (e + k) hr) ∧
      (r = 2 ^ 53 → roundWithAccuracy Format.binary64 .positive m e accuracy =
        .finite .positive (2 ^ 52) (e + k + 1) (Nat.two_pow_pos _)) := by
  generalize hem : ExtendedMantissa.ofMantissaAndAccuracy m accuracy >>> k = em
  have hmantissa : em.mantissa = m / 2 ^ k := by
    rw [← hem, mantissa_shift]
    cases accuracy with
    | exact => rfl
    | inexact o => cases o <;> rfl
  obtain ⟨hfloor, hceil⟩ := roundedMantissa_bounds em
  rw [hmantissa] at hfloor hceil
  obtain ⟨hquotlow, hquothigh⟩ := leading_bounds hm
  have hfirst : shiftToTargetExponent Format.binary64 m e accuracy = (em, e + k) := by
    rw [shiftToTargetExponent_eq hm hlow, hem]
  refine ⟨em.roundedMantissa, hfloor, hceil, by omega, by omega, rfl, ?_, ?_⟩
  -- A mantissa that still has 53 bits is not shifted a second time; one that was rounded up to 54 bits is.
  · intro hr hsmall
    have hlog : em.roundedMantissa.log2 = 52 + 0 := log2_of_bounds (by omega) hsmall
    have hsecond : shiftToTargetExponent Format.binary64 em.roundedMantissa (e + k) Accuracy.exact =
        (ExtendedMantissa.ofMantissaAndAccuracy em.roundedMantissa Accuracy.exact >>> 0, e + k) := by
      rw [shiftToTargetExponent_eq hlog (by omega), Nat.cast_zero, add_zero]
    exact roundWithAccuracy_of_shifts hfirst hsecond hr
  · intro hfull
    have hlog : em.roundedMantissa.log2 = 52 + 1 := by rw [hfull]; exact Nat.log2_two_pow
    have hhalf : (ExtendedMantissa.ofMantissaAndAccuracy em.roundedMantissa Accuracy.exact >>> 1).mantissa =
        2 ^ 52 := by rw [hfull]; rfl
    have hsecond : shiftToTargetExponent Format.binary64 em.roundedMantissa (e + k) Accuracy.exact =
        (ExtendedMantissa.ofMantissaAndAccuracy em.roundedMantissa Accuracy.exact >>> 1, e + k + (1 : Nat)) :=
      shiftToTargetExponent_eq hlog (by omega) Accuracy.exact
    rw [roundWithAccuracy_of_shifts hfirst hsecond (by rw [hhalf]; decide), UnpackedFloat.finite.injEq]
    exact ⟨rfl, hhalf, rfl⟩

/-- A count with zeros behind it is kept as it is, whatever its scale. -/
theorem roundWithAccuracy_exact {n j : Nat} {e' : Int} (hn : 0 < n) (hsmall : n < 2 ^ 53) (hj : 52 ≤ n.log2 + j)
    (he : e' = e + j - (52 - n.log2 : Nat)) (hlow : -1074 ≤ e') :
    ∃ h, roundWithAccuracy Format.binary64 .positive (n * 2 ^ j) e Accuracy.exact =
      .finite .positive (scaled n) e' h := by
  obtain ⟨hsclow, hschigh⟩ := scaled_bounds hn hsmall
  have hlog53 : n.log2 < 53 := (Nat.log2_lt hn.ne').mpr hsmall
  obtain ⟨k, hk⟩ : ∃ k, n.log2 + j = 52 + k := Nat.exists_eq_add_of_le hj
  have hmantissa : n * 2 ^ j = scaled n * 2 ^ k := by
    rw [scaled, mul_assoc, ← pow_add]
    congr 2
    omega
  have hlog : (scaled n * 2 ^ k).log2 = 52 + k := by
    rw [Nat.log2_eq_iff (Nat.mul_pos (by omega) (Nat.two_pow_pos _)).ne', pow_add, Nat.add_right_comm, pow_add]
    exact ⟨Nat.mul_le_mul_right _ hsclow, Nat.mul_lt_mul_of_pos_right hschigh (Nat.two_pow_pos _)⟩
  obtain rfl : e' = e + k := by omega
  obtain ⟨r, -, -, -, -, hr, hfinite, -⟩ := roundWithAccuracy_eq hlog hlow Accuracy.exact
  rw [ExtendedMantissa.ofMantissaAndAccuracy, shift_exact] at hr
  obtain rfl : r = scaled n := hr
  have hpos : 0 < scaled n := by omega
  exact ⟨hpos, by rw [hmantissa, hfinite hpos hschigh]⟩

end Rounding

section Positive

variable {m m' : Nat} {e e' : Int} (h : 0 < m) (h' : 0 < m')

theorem mul_finite : UnpackedFloat.mul Format.binary64 (.finite .positive m e h) (.finite .positive m' e' h') =
    roundWithAccuracy Format.binary64 .positive (m * m') (e + e') Accuracy.exact := rfl

theorem div_finite : UnpackedFloat.div Format.binary64 (.finite .positive m e h) (.finite .positive m' e' h') =
    let (quotient, exponent, accuracy) := divCore Format.binary64 m e m' e'
    roundWithAccuracy Format.binary64 .positive quotient exponent accuracy := rfl

theorem le_finite : UnpackedFloat.le (.finite .positive m e h) (.finite .positive m' e' h') =
    ((compare e e').then (compare m m')).isLE := rfl

end Positive

section Counts

variable {x y : Float} {a b n : Nat}

/-- A floating-point number that is a count of at most 53 bits. -/
def IsCount (x : Float) (n : Nat) : Prop :=
  ∃ h, x.toModel.unpack = .finite .positive (scaled n) (-(52 - n.log2 : Nat)) h

theorem isCount_hundred : IsCount 100.0 100 := ⟨by decide, rfl⟩

/-- A number is one that is rounded to a count if it is kept as that count. -/
theorem isCount_of_pack {u : UnpackedFloat} (hn : 0 < n) (hsmall : n < 2 ^ 53)
    (hu : ∃ h, u = .finite .positive (scaled n) (-(52 - n.log2 : Nat)) h)
    (hx : x.toModel = Float.Model.pack u) : IsCount x n := by
  obtain ⟨h, rfl⟩ := hu
  refine ⟨h, ?_⟩
  rw [hx, unpack_pack h (log2_scaled hn hsmall) (by omega) (by omega)]

theorem isCount_toFloat (hn : 0 < n) (hsmall : n < 2 ^ 53) : IsCount n.toUInt64.toFloat n := by
  have hnat : n.toUInt64.toNat = n := Nat.mod_eq_of_lt (hsmall.trans (by decide))
  have hlog : n.log2 < 53 := (Nat.log2_lt hn.ne').mpr hsmall
  have htarget : Format.binary64.targetExponent (totalExponent n 0) = -(52 - n.log2 : Nat) := by
    rw [targetExponent_binary64, totalExponent]
    omega
  have hshift : (0 - -((52 - n.log2 : Nat) : Int)).toNat = 52 - n.log2 := by omega
  have hround : UnpackedFloat.ofUInt64 Format.binary64 n.toUInt64 = roundWithAccuracy Format.binary64 .positive
      (n * 2 ^ (52 - n.log2)) (0 - (52 - n.log2 : Nat)) Accuracy.exact := by
    rw [UnpackedFloat.ofUInt64, hnat, UnpackedFloat.ofNat, UnpackedFloat.ofInt, UnpackedFloat.normalize,
      Int.compare_eq_gt.mpr (by omega)]
    simp only [Int.toNat_natCast, UnpackedFloat.round, htarget, decreaseExponent, hshift, Nat.shiftLeft_eq]
  refine isCount_of_pack hn hsmall ?_ rfl
  rw [hround]
  exact roundWithAccuracy_exact hn hsmall (by omega) (by omega) (by omega)

theorem IsCount.mul (hx : IsCount x a) (hy : IsCount y b) (ha : 0 < a) (hb : 0 < b) (hsmall : a * b < 2 ^ 53) :
    IsCount (x * y) (a * b) := by
  obtain ⟨hxpos, hx⟩ := hx
  obtain ⟨hypos, hy⟩ := hy
  have hab : 0 < a * b := Nat.mul_pos ha hb
  have hlog : a.log2 + b.log2 ≤ (a * b).log2 := by
    rw [Nat.le_log2 hab.ne', pow_add]
    exact Nat.mul_le_mul (Nat.log2_self_le ha.ne') (Nat.log2_self_le hb.ne')
  have hroom : (a * b).log2 < 53 := (Nat.log2_lt hab.ne').mpr hsmall
  have hmantissa : scaled a * scaled b = a * b * 2 ^ (52 - a.log2 + (52 - b.log2)) := by
    simp only [scaled]
    ring
  refine isCount_of_pack hab hsmall ?_ rfl
  rw [hx, hy, mul_finite, hmantissa]
  exact roundWithAccuracy_exact hab hsmall (by omega) (by omega) (by omega)

theorem isCount_ofNat (hn : 0 < n) (hsmall : n < 2 ^ 53) : IsCount (Float.ofNat n) n := by
  have hone : IsCount Float.exactlyRepresentablePowersOfTen[0] 1 := ⟨by decide, rfl⟩
  have h := (isCount_toFloat hn hsmall).mul hone hn Nat.one_pos (by simpa using hsmall)
  rw [Nat.mul_one] at h
  have hread : Float.ofNat n = n.toUInt64.toFloat * Float.exactlyRepresentablePowersOfTen[0] := by
    change Float.ofScientific n false 0 = _
    rw [Float.ofScientific, dif_pos ⟨hsmall, by decide⟩]
    rfl
  rw [hread]
  exact h

/-- Positive numbers of 53 bits are compared by their exponents first. -/
theorem le_finite_iff {m m' : Nat} {e e' : Int} (h : 0 < m) (h' : 0 < m') :
    UnpackedFloat.le (.finite .positive m e h) (.finite .positive m' e' h') = true ↔ e < e' ∨ e = e' ∧ m ≤ m' := by
  rw [le_finite]
  rcases lt_trichotomy e e' with hlt | rfl | hgt
  · simp [Int.compare_eq_lt.mpr hlt, hlt]
  · simp [Nat.isLE_compare]
  · simp [Int.compare_eq_gt.mpr hgt, hgt.not_gt, hgt.ne']

/-- Ten is reached by a rounded mantissa if it is reached by the number that it stands for. -/
theorem ten_le_iff {z : Float} {u : UnpackedFloat} {r j : Nat} (hz : z.toModel = Float.Model.pack u)
    (hlow : 2 ^ 52 ≤ r) (hhigh : r ≤ 2 ^ 53) (hj : j ≤ 200)
    (hsmall : ∀ hr : 0 < r, r < 2 ^ 53 → u = .finite .positive r (-(j : Int)) hr)
    (hfull : r = 2 ^ 53 → u = .finite .positive (2 ^ 52) (-(j : Int) + 1) (Nat.two_pow_pos _)) :
    10.0 ≤ z ↔ 10 * 2 ^ j ≤ r := by
  have hten : (Float.toModel 10.0).unpack = .finite .positive (10 * 2 ^ 49) (-49) (by decide) := rfl
  have hle : ∀ w : Float, 10.0 ≤ w ↔ UnpackedFloat.le (Float.toModel 10.0).unpack w.toModel.unpack = true := by
    intro w
    change Float.le 10.0 w = true ↔ _
    rw [Float.le, decide_eq_true_eq]
    rfl
  rw [hle, hten, hz]
  rcases hhigh.lt_or_eq with hr | rfl
  · have hpos : 0 < r := by omega
    rw [hsmall hpos hr, unpack_pack hpos (log2_of_bounds hlow hr) (by omega) (by omega), le_finite_iff]
    -- Ten has 49 bits behind the point; with another number of them the exponent decides.
    rcases lt_trichotomy j 49 with hlt | rfl | hgt
    · have hpow : 2 ^ j ≤ 2 ^ 48 := Nat.pow_le_pow_right (by decide) (by omega)
      omega
    · omega
    · have hpow : 2 ^ 50 ≤ 2 ^ j := Nat.pow_le_pow_right (by decide) (by omega)
      omega
  · rw [hfull rfl, unpack_pack (Nat.two_pow_pos 52) Nat.log2_two_pow (by omega) (by omega), le_finite_iff]
    rcases Nat.lt_or_ge j 50 with hlt | hge
    · have hpow : 2 ^ j ≤ 2 ^ 49 := Nat.pow_le_pow_right (by decide) (by omega)
      omega
    · have hpow : 2 ^ 50 ≤ 2 ^ j := Nat.pow_le_pow_right (by decide) (by omega)
      omega

/-- A mantissa that is rounded up reaches ten times a power of two only if the quotient does. There is no
count between the two, since the numerator has a bit to spare. -/
theorem ten_le_rounded_iff {r j k s t : Nat} (hb : scaled b = b * 2 ^ t) (hbsmall : scaled b < 2 ^ 53)
    (hk : k ≤ 1) (hs : 1 ≤ s) (hj : j + t + k = s + 53) (hfloor : a * 2 ^ (s + 53) / (b * 2 ^ (t + k)) ≤ r)
    (hceil : r ≤ a * 2 ^ (s + 53) / (b * 2 ^ (t + k)) + 1) (hpos : 0 < b) : 10 * 2 ^ j ≤ r ↔ 10 * b ≤ a := by
  have hden : 0 < b * 2 ^ (t + k) := Nat.mul_pos hpos (Nat.two_pow_pos _)
  have hscale : 10 * 2 ^ j * (b * 2 ^ (t + k)) = 10 * b * 2 ^ (s + 53) := by
    rw [← hj, pow_add, pow_add, pow_add]
    ring
  have hquotient : 10 * 2 ^ j ≤ a * 2 ^ (s + 53) / (b * 2 ^ (t + k)) ↔ 10 * b ≤ a := by
    rw [Nat.le_div_iff_mul_le hden, hscale, Nat.mul_le_mul_right_iff (Nat.two_pow_pos _)]
  refine ⟨fun hr => ?_, fun h => (hquotient.mpr h).trans hfloor⟩
  by_contra hless
  have hnext : 10 * 2 ^ j = a * 2 ^ (s + 53) / (b * 2 ^ (t + k)) + 1 := by
    have hbelow := mt hquotient.mp hless
    omega
  have hgap : 10 * b * 2 ^ (s + 53) ≤ a * 2 ^ (s + 53) + b * 2 ^ (t + k) := by
    rw [← hscale, hnext, Nat.add_mul, Nat.one_mul]
    exact Nat.add_le_add_right (Nat.div_mul_le_self _ _) _
  have hstep : a * 2 ^ (s + 53) + 2 ^ (s + 53) ≤ 10 * b * 2 ^ (s + 53) := by
    rw [← Nat.succ_mul]
    exact Nat.mul_le_mul_right _ (by omega)
  have hsmall : b * 2 ^ (t + k) < 2 ^ 54 := by
    calc b * 2 ^ (t + k) = scaled b * 2 ^ k := by rw [hb, pow_add, mul_assoc]
      _ ≤ scaled b * 2 ^ 1 := Nat.mul_le_mul_left _ (Nat.pow_le_pow_right (by decide) hk)
      _ < 2 ^ 54 := by omega
  have hlarge : 2 ^ 54 ≤ 2 ^ (s + 53) := Nat.pow_le_pow_right (by decide) (by omega)
  omega

theorem divCore_scaled {sa sb : Nat} (ha : (scaled a).log2 = 52) (hb : (scaled b).log2 = 52) (hsb : sb ≤ 52)
    (hsa : sa ≤ 52) :
    divCore Format.binary64 (scaled a) (-(sa : Int)) (scaled b) (-(sb : Int)) =
      (scaled a * 2 ^ 53 / scaled b, -(sa : Int) + sb - 53,
        accuracyOfFraction (scaled a * 2 ^ 53 % scaled b) (scaled b)) := by
  have htarget : min (-(sa : Int) - -(sb : Int)) (Format.binary64.targetExponent
      (totalExponent (scaled a) (-(sa : Int)) - totalExponent (scaled b) (-(sb : Int)))) = -(sa : Int) + sb - 53 := by
    rw [targetExponent_binary64, totalExponent, totalExponent, ha, hb]
    omega
  have hshift : (-(sa : Int) - -(sb : Int) - (-(sa : Int) + sb - 53)).toNat = 53 := by omega
  rw [divCore]
  simp only [htarget, hshift, Nat.shiftLeft_eq]

/-- A quotient of two mantissas with 53 bits, taken to 53 more, has 53 or 54 of them. -/
theorem log2_quotient {m m' : Nat} (hlow : 2 ^ 52 ≤ m) (hhigh : m < 2 ^ 53) (hlow' : 2 ^ 52 ≤ m')
    (hhigh' : m' < 2 ^ 53) : ∃ k, k ≤ 1 ∧ (m * 2 ^ 53 / m').log2 = 52 + k := by
  have hqlow : 2 ^ 52 ≤ m * 2 ^ 53 / m' := by
    rw [Nat.le_div_iff_mul_le (by omega)]
    omega
  have hqhigh : m * 2 ^ 53 / m' < 2 ^ 54 := by
    rw [Nat.div_lt_iff_lt_mul (by omega)]
    omega
  have hge : 52 ≤ (m * 2 ^ 53 / m').log2 := (Nat.le_log2 (by omega)).mpr hqlow
  have hlt : (m * 2 ^ 53 / m').log2 < 54 := (Nat.log2_lt (by omega)).mpr hqhigh
  exact ⟨(m * 2 ^ 53 / m').log2 - 52, by omega, by omega⟩

theorem IsCount.div_eq (hx : IsCount x a) (hy : IsCount y b) (ha : 0 < a) (hb : 0 < b) (hasmall : a < 2 ^ 53)
    (hbsmall : b < 2 ^ 53) : UnpackedFloat.div Format.binary64 x.toModel.unpack y.toModel.unpack =
      roundWithAccuracy Format.binary64 .positive (scaled a * 2 ^ 53 / scaled b)
        (-((52 - a.log2 : Nat) : Int) + (52 - b.log2 : Nat) - 53)
        (accuracyOfFraction (scaled a * 2 ^ 53 % scaled b) (scaled b)) := by
  obtain ⟨hxpos, hx⟩ := hx
  obtain ⟨hypos, hy⟩ := hy
  rw [hx, hy, div_finite,
    divCore_scaled (log2_scaled ha hasmall) (log2_scaled hb hbsmall) (Nat.sub_le _ _) (Nat.sub_le _ _)]

/-- A quotient of counts reaches ten in floating point if it does. -/
theorem IsCount.ten_le_div (hx : IsCount x a) (hy : IsCount y b) (ha : 0 < a) (hb : 0 < b) (hasmall : a < 2 ^ 52)
    (hbsmall : b < 2 ^ 53) : 10.0 ≤ x / y ↔ 10 * b ≤ a := by
  have hlog : a.log2 < 52 := (Nat.log2_lt ha.ne').mpr hasmall
  have hlogb : b.log2 < 53 := (Nat.log2_lt hb.ne').mpr hbsmall
  obtain ⟨halow, hahigh⟩ := scaled_bounds ha (by omega)
  obtain ⟨hblow, hbhigh⟩ := scaled_bounds hb hbsmall
  have hdiv := hx.div_eq hy ha hb (by omega) hbsmall
  obtain ⟨k, hk, hqlog⟩ := log2_quotient halow hahigh hblow hbhigh
  obtain ⟨j, hj⟩ : ∃ j, j + (52 - b.log2) + k = (52 - a.log2) + 53 :=
    ⟨(52 - a.log2) + 53 - (52 - b.log2) - k, by omega⟩
  have hexponent : -((52 - a.log2 : Nat) : Int) + (52 - b.log2 : Nat) - 53 + k = -(j : Int) := by omega
  have hfraction : scaled a * 2 ^ 53 / scaled b / 2 ^ k =
      a * 2 ^ (52 - a.log2 + 53) / (b * 2 ^ (52 - b.log2 + k)) := by
    rw [Nat.div_div_eq_div_mul, scaled, scaled, mul_assoc, mul_assoc, ← pow_add, ← pow_add]
  obtain ⟨r, hfloor, hceil, hrlow, hrhigh, -, hsmall, hfull⟩ := roundWithAccuracy_eq hqlog
    (by rw [hexponent]; omega) (accuracyOfFraction (scaled a * 2 ^ 53 % scaled b) (scaled b))
  rw [hexponent] at hsmall hfull
  rw [hfraction] at hfloor hceil
  rw [← ten_le_rounded_iff rfl hbhigh hk (by omega) hj hfloor hceil hb]
  exact ten_le_iff rfl hrlow hrhigh (by omega) (fun hr h => hdiv.trans (hsmall hr h)) fun h => hdiv.trans (hfull h)

/-- The percentage of some of the files reaches ten if a tenth of the files does. -/
theorem ten_le_percentage {part whole : Nat} (hpart : 0 < part) (hle : part ≤ whole) (hsmall : whole < 2 ^ 45) :
    10.0 ≤ Float.ofNat part * 100.0 / Float.ofNat whole ↔ whole ≤ part * 10 := by
  have hproduct : IsCount (Float.ofNat part * 100.0) (part * 100) :=
    (isCount_ofNat hpart (by omega)).mul isCount_hundred hpart (by decide) (by omega)
  have hwhole : IsCount (Float.ofNat whole) whole := isCount_ofNat (by omega) (by omega)
  rw [hproduct.ten_le_div hwhole (by omega) (by omega) (by omega) (by omega)]
  omega

end Counts

end CodeAudit.Percentage
