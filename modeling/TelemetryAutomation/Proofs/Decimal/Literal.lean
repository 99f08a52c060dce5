import TelemetryAutomation.Decimal.Reading
import TelemetryAutomation.Proofs.Decimal.Scientific

/-!
# Literals

A literal in scientific notation is the double that stands for its value, whichever way it is computed, and so
is the double of a whole number. The same holds where powers of ten are bounded before anything is computed.
-/

namespace TelemetryAutomation.Decimal

open Float.Model
open Float.Model.UnpackedFloat

variable {q : ℚ} {m : ℕ} {e : ℤ}

theorem roundsTo_zero : RoundsTo (.zero .positive) .positive 0 := ⟨0, -1074, nearest_zero, rfl⟩

/-! ## Literals of any size -/

theorem ten_zpow_eq (e : ℤ) : (10 : ℚ) ^ e = if 0 ≤ e then ((10 ^ e.toNat : ℕ) : ℚ) else (10 ^ (-e).toNat : ℕ)⁻¹ := by
  split_ifs with he
  · obtain ⟨n, rfl⟩ := Int.eq_ofNat_of_zero_le he
    simp
  · obtain ⟨n, hn⟩ := Int.eq_ofNat_of_zero_le (neg_nonneg.mpr (not_le.mp he).le)
    rw [hn, eq_neg_of_add_eq_zero_left (by omega : e + n = 0), zpow_neg]
    simp

/-- A product that is rounded stands for a mantissa times a power of ten. -/
theorem mul_ten_standsFor (hm : 0 < m) (he : 0 ≤ e)
    (hshift : 0 < m <<< Format.binary64.mantissaBits) (hten : 0 < 10 ^ e.toNat) :
    StandsFor (Float.Model.pack (UnpackedFloat.mul .binary64
      (.finite .positive (m <<< Format.binary64.mantissaBits) (-Format.binary64.mantissaBits) hshift)
      (.finite .positive (10 ^ e.toNat) 0 hten))).unpack .positive (m * 10 ^ e) := by
  have hbits : Format.binary64.mantissaBits = 53 := rfl
  have hvalue : scaled (m <<< Format.binary64.mantissaBits) (-Format.binary64.mantissaBits) *
      scaled (10 ^ e.toNat) 0 = m * 10 ^ e := by
    rw [ten_zpow_eq, if_pos he, hbits, scaled, scaled, Nat.shiftLeft_eq, zpow_zero, mul_one, zpow_neg,
      zpow_natCast, Nat.cast_mul, Nat.cast_pow, Nat.cast_ofNat, mul_inv_cancel_right₀ (by positivity)]
  rw [← hvalue]
  refine (mul_roundsTo _ _ ?_).standsFor
  rw [hbits, Nat.shiftLeft_eq]
  calc 2 ^ 52 ≤ 2 ^ 53 := by norm_num
    _ ≤ m * 2 ^ 53 := Nat.le_mul_of_pos_left _ hm
    _ ≤ m * 2 ^ 53 * 10 ^ e.toNat := Nat.le_mul_of_pos_right _ hten

/-- A quotient that is rounded stands for a mantissa times a power of ten. -/
theorem div_ten_standsFor (hm : 0 < m) (he : ¬ 0 ≤ e) (hten : 0 < 10 ^ (-e).toNat) :
    StandsFor (Float.Model.pack (UnpackedFloat.div .binary64 (.finite .positive m 0 hm)
      (.finite .positive (10 ^ (-e).toNat) 0 hten))).unpack .positive (m * 10 ^ e) := by
  have hvalue : scaled m 0 / scaled (10 ^ (-e).toNat) 0 = m * 10 ^ e := by
    rw [ten_zpow_eq, if_neg he, scaled, scaled, zpow_zero, mul_one, mul_one, div_eq_mul_inv]
  rw [← hvalue]
  exact (div_roundsTo _ _).standsFor

/-- A mantissa far above zero makes an infinity. -/
theorem overflow_le_mul_ten (hm : 0 < m) (he : 309 ≤ e) : overflow ≤ m * 10 ^ e := by
  have hone : (1 : ℚ) ≤ m := by exact_mod_cast hm
  have hpos : (0 : ℚ) < 10 ^ e := by positivity
  exact (overflow_le_ten_zpow he).trans (le_mul_of_one_le_left hpos.le hone)

/-- A power of ten that is far below a mantissa makes a zero. -/
theorem mul_ten_le_underflow {n : ℕ} (hm : m < 10 ^ n) (he : n + e ≤ -331) : (m : ℚ) * 10 ^ e ≤ underflow := by
  have hlt : (m : ℚ) ≤ 10 ^ n := by exact_mod_cast hm.le
  calc (m : ℚ) * 10 ^ e ≤ 10 ^ n * 10 ^ e := by gcongr
    _ = 10 ^ (n + e) := by rw [zpow_add₀ (by norm_num), zpow_natCast]
    _ ≤ underflow := ten_zpow_le_underflow he

/-- The general way to compute a literal rounds once. -/
theorem modelOfScientific_standsFor (m : ℕ) (e : ℤ) :
    StandsFor (Float.Model.ofScientific m e).unpack .positive (m * 10 ^ e) := by
  have hbits : (2 : ℤ) ^ Format.binary64.exponentBits = 2048 := rfl
  rw [Float.Model.ofScientific, UnpackedFloat.ofScientific, hbits]
  have hten (n : ℕ) : 0 < 10 ^ n := by positivity
  split_ifs with hm hlarge hsmall he
  · subst hm
    rw [Nat.cast_zero, zero_mul]
    refine RoundsTo.standsFor ?_
    exact roundsTo_zero
  all_goals have hpos : 0 < m := Nat.pos_of_ne_zero hm
  · have hshift : 0 < m <<< Format.binary64.mantissaBits := by
      rw [Nat.shiftLeft_eq]
      positivity
    have hreal := mul_ten_standsFor (e := e) hpos (by omega) hshift (hten _)
    have hinfinite := hreal.infinity (overflow_le_mul_ten hpos (by omega))
    rw [hinfinite] at hreal
    exact hreal
  · have hreal := div_ten_standsFor (e := e) hpos (by omega) (hten _)
    have hsize : m < 10 ^ (m.log2 + 1) :=
      Nat.lt_log2_self.trans_le (Nat.pow_le_pow_left (by norm_num) _)
    have hzero := hreal.zero (mul_ten_le_underflow hsize (by push_cast; omega))
    rw [hzero] at hreal
    exact hreal
  · exact mul_ten_standsFor hpos he _ _
  · exact div_ten_standsFor hpos he _

/-! ## Literals of exact doubles -/

/-- A canonical form that has the value of a quotient is the only one nearest to it. -/
theorem Nearest.scaled_eq {m' : ℕ} {e' : ℤ} (h : Nearest (scaled m' e') m e) (hform : Canonical m' e') :
    scaled m e = scaled m' e' := by
  have hnear := h.near m' e' hform
  rw [sub_self, abs_zero, abs_nonpos_iff] at hnear
  exact sub_eq_zero.mp hnear

theorem log2_shiftLeft (hm : 0 < m) (k : ℕ) : (m <<< k).log2 = m.log2 + k := by
  rw [Nat.shiftLeft_eq, Nat.log2_eq_iff (by positivity), pow_add, pow_succ', pow_add, ← mul_assoc, ← pow_succ']
  exact ⟨Nat.mul_le_mul_right _ (Nat.log2_self_le hm.ne'),
    Nat.mul_lt_mul_of_pos_right Nat.lt_log2_self (by positivity)⟩

/-- Shifting a mantissa keeps its value. -/
theorem scaled_shiftLeft (m k : ℕ) : scaled (m <<< k) (-k) = m := by
  rw [scaled, Nat.shiftLeft_eq, Nat.cast_mul, Nat.cast_pow, Nat.cast_ofNat, zpow_neg, zpow_natCast,
    mul_inv_cancel_right₀ (by positivity)]

/-- A mantissa of at most 53 bits has a canonical form, with all 53 of them. -/
theorem canonical_shiftLeft (hm : 0 < m) (hlt : m < 2 ^ 53) :
    Canonical (m <<< (52 - m.log2)) (-(52 - m.log2 : ℕ)) := by
  have hpos : m <<< (52 - m.log2) ≠ 0 := by
    rw [Nat.shiftLeft_eq]
    positivity
  have hlog : (m <<< (52 - m.log2)).log2 = 52 := by
    have hmax := (Nat.log2_lt hm.ne').mpr hlt
    rw [log2_shiftLeft hm]
    omega
  obtain ⟨hlower, hupper⟩ := (Nat.log2_eq_iff hpos).mp hlog
  exact ⟨hupper, by omega, .inr hlower⟩

/-- A whole number of at most 53 bits is shifted to all of them before it is rounded. -/
theorem toModel_toFloat (hm : 0 < m) (hlt : m < 2 ^ 53) :
    m.toUInt64.toFloat.toModel = Float.Model.pack
      (roundWithAccuracy .binary64 .positive (m <<< (52 - m.log2)) (-(52 - m.log2 : ℕ)) .exact) := by
  have hlog := (Nat.log2_lt hm.ne').mpr hlt
  have hnat : m.toUInt64.toNat = m := UInt64.toNat_ofNat_of_lt' (hlt.trans (by decide))
  have hcompare : compare (m : ℤ) 0 = .gt := compare_gt_iff_gt.mpr (by exact_mod_cast hm)
  have hshift : ((0 : ℤ) - max ((m.log2 : ℤ) + 1 + 0 - 53) (-1074)).toNat = 52 - m.log2 := by omega
  show Float.Model.pack (UnpackedFloat.normalize .binary64 (m.toUInt64.toNat : ℤ) 0 .positive) = _
  rw [hnat, UnpackedFloat.normalize, hcompare]
  show Float.Model.pack (UnpackedFloat.round .binary64 .positive m 0) = _
  rw [UnpackedFloat.round, targetExponent_eq, totalExponent, decreaseExponent, hshift, zero_sub]

/-- A positive whole number of at most 53 bits is a double. -/
theorem unpack_toFloat (hm : 0 < m) (hlt : m < 2 ^ 53) :
    ∃ m' e' h', m.toUInt64.toFloat.toModel.unpack = .finite .positive m' e' h' ∧ scaled m' e' = m := by
  have hform := canonical_shiftLeft hm hlt
  have hmodel := toModel_toFloat hm hlt
  have hlog := (Nat.log2_lt hm.ne').mpr hlt
  generalize hk : 52 - m.log2 = k at hform hmodel
  have hrounds : RoundsTo (roundWithAccuracy .binary64 .positive (m <<< k) (-k) .exact) .positive m := by
    refine roundWithAccuracy_roundsTo .positive (Nat.cast_nonneg m) ?_ ?_
    · rw [← scaled_shiftLeft m k, scaled, mul_div_cancel_right₀ _ (by positivity)]
      exact represents_exact _
    · rw [targetExponent_eq, totalExponent, log2_shiftLeft hm]
      omega
  obtain ⟨m', e', hnearest, heq⟩ := hrounds.standsFor
  have hvalue : scaled m' e' = m := by
    rw [← scaled_shiftLeft m k] at hnearest ⊢
    exact hnearest.scaled_eq hform
  have hm' : m' ≠ 0 := by
    rintro rfl
    rw [scaled_zero] at hvalue
    exact hm.ne (by exact_mod_cast hvalue)
  have he' : e' ≤ maxExponent := by
    have hsmall : (m : ℚ) < 2 ^ 53 := by exact_mod_cast hlt
    have hover := hsmall.trans ((by norm_num : (2 : ℚ) ^ 53 < 2 ^ 64).trans two_pow_lt_overflow)
    exact not_lt.mp (mt hnearest.maxExponent_lt_iff.mp (not_le.mpr hover))
  refine ⟨m', e', Nat.pos_of_ne_zero hm', ?_, hvalue⟩
  rw [hmodel, heq, double, if_pos he', unbounded, dif_neg hm']

/-- Whether an unpacked double is a power of ten with all 53 bits. -/
def isTenPow (n : ℕ) : UnpackedFloat → Bool
  | .finite .positive p k _ => 2 ^ 52 ≤ p ∧ -52 ≤ k ∧ p * 2 ^ (k + 52).toNat = 10 ^ n * 2 ^ 52
  | _ => false

theorem isTenPow_unpack (n : ℕ) (hn : n < Float.exactlyRepresentablePowersOfTen.size) :
    isTenPow n Float.exactlyRepresentablePowersOfTen[n].toModel.unpack := by
  have hall : ∀ n : Fin 23, isTenPow n Float.exactlyRepresentablePowersOfTen[n].toModel.unpack := by
    decide +kernel
  exact hall ⟨n, hn⟩

theorem unpack_tenPow {n : ℕ} (hn : n < Float.exactlyRepresentablePowersOfTen.size) :
    ∃ p k hp, Float.exactlyRepresentablePowersOfTen[n].toModel.unpack = .finite .positive p k hp ∧
      2 ^ 52 ≤ p ∧ scaled p k = 10 ^ n := by
  have htable := isTenPow_unpack n hn
  generalize Float.exactlyRepresentablePowersOfTen[n].toModel.unpack = u at htable
  unfold isTenPow at htable
  split at htable
  · next p k hp =>
    obtain ⟨hbits, hk, hvalue⟩ := of_decide_eq_true htable
    refine ⟨p, k, hp, rfl, hbits, ?_⟩
    have hpow : (2 : ℚ) ^ (k + 52).toNat = 2 ^ k * 2 ^ 52 := by
      rw [← zpow_natCast, ← zpow_natCast, ← zpow_add₀ two_ne_zero]
      congr 1
      omega
    have hcast : (p : ℚ) * 2 ^ (k + 52).toNat = 10 ^ n * 2 ^ 52 := by exact_mod_cast hvalue
    rw [hpow, ← mul_assoc] at hcast
    exact mul_right_cancel₀ (by positivity) hcast
  · cases htable

theorem unpack_toFloat_zero : (0 : ℕ).toUInt64.toFloat.toModel.unpack = .zero .positive := rfl

/-- A product of exact doubles rounds once. -/
theorem mul_tenPow_standsFor (hm : m < 2 ^ 53) {n : ℕ} (hn : n < Float.exactlyRepresentablePowersOfTen.size) :
    StandsFor (m.toUInt64.toFloat * Float.exactlyRepresentablePowersOfTen[n]).toModel.unpack .positive
      (m * 10 ^ n) := by
  obtain ⟨p, k, hp, htable, hbits, hvalue⟩ := unpack_tenPow hn
  show StandsFor (Float.Model.pack (UnpackedFloat.mul .binary64 m.toUInt64.toFloat.toModel.unpack
    Float.exactlyRepresentablePowersOfTen[n].toModel.unpack)).unpack _ _
  rw [htable]
  rcases Nat.eq_zero_or_pos m with rfl | hpos
  · rw [unpack_toFloat_zero, Nat.cast_zero, zero_mul]
    refine RoundsTo.standsFor ?_
    exact roundsTo_zero
  · obtain ⟨m', e', hpos', heq, hvalue'⟩ := unpack_toFloat hpos hm
    rw [heq, ← hvalue', ← hvalue]
    exact (mul_roundsTo hpos' hp (hbits.trans (Nat.le_mul_of_pos_left _ hpos'))).standsFor

/-- A quotient of exact doubles rounds once. -/
theorem div_tenPow_standsFor (hm : m < 2 ^ 53) {n : ℕ} (hn : n < Float.exactlyRepresentablePowersOfTen.size) :
    StandsFor (m.toUInt64.toFloat / Float.exactlyRepresentablePowersOfTen[n]).toModel.unpack .positive
      (m / 10 ^ n) := by
  obtain ⟨p, k, hp, htable, -, hvalue⟩ := unpack_tenPow hn
  show StandsFor (Float.Model.pack (UnpackedFloat.div .binary64 m.toUInt64.toFloat.toModel.unpack
    Float.exactlyRepresentablePowersOfTen[n].toModel.unpack)).unpack _ _
  rw [htable]
  rcases Nat.eq_zero_or_pos m with rfl | hpos
  · rw [unpack_toFloat_zero, Nat.cast_zero, zero_div]
    refine RoundsTo.standsFor ?_
    exact roundsTo_zero
  · obtain ⟨m', e', hpos', heq, hvalue'⟩ := unpack_toFloat hpos hm
    rw [heq, ← hvalue', ← hvalue]
    exact (div_roundsTo hpos' hp).standsFor

/-- Whichever way a literal is computed, it stands for its value. -/
theorem ofScientific_standsFor (m : ℕ) (isNegative : Bool) (n : ℕ) :
    StandsFor (Float.ofScientific m isNegative n).toModel.unpack .positive
      (m * 10 ^ (if isNegative then -n else n : ℤ)) := by
  have hsize : Float.exactlyRepresentablePowersOfTen.size = 23 := rfl
  unfold Float.ofScientific
  split_ifs with hfast hneg hneg
  · rw [zpow_neg, zpow_natCast, ← div_eq_mul_inv]
    exact div_tenPow_standsFor hfast.1 (by omega)
  · rw [zpow_natCast]
    exact mul_tenPow_standsFor hfast.1 (by omega)
  · show StandsFor (Float.Model.ofScientific m (Int.negOfNat n)).unpack _ _
    rw [Int.negOfNat_eq]
    exact modelOfScientific_standsFor m _
  · exact modelOfScientific_standsFor m _

/-! ## Bounded powers of ten -/

theorem lt_ten_pow_size (m : ℕ) : m < 10 ^ (Nat.toDigits 10 m).length :=
  (Nat.length_toDigits_le_iff (by norm_num) Nat.length_toDigits_pos).mp le_rfl

theorem ten_pow_size_le (hm : 0 < m) : 10 ^ ((Nat.toDigits 10 m).length - 1) ≤ m := by
  rcases Nat.eq_zero_or_pos ((Nat.toDigits 10 m).length - 1) with hsize | hsize
  · rw [hsize, pow_zero]
    exact hm
  · refine not_lt.mp fun hlt => ?_
    have hle := (Nat.length_toDigits_le_iff (by norm_num) hsize).mpr hlt
    omega

/-- A number with so many digits in front of the point is too large. -/
theorem overflow_le_of_size (hm : 0 < m) (h : 310 < (Nat.toDigits 10 m).length + e) : overflow ≤ m * 10 ^ e := by
  have hsize : (10 : ℚ) ^ ((Nat.toDigits 10 m).length - 1) ≤ m := by exact_mod_cast ten_pow_size_le hm
  calc overflow ≤ 10 ^ (((Nat.toDigits 10 m).length - 1 : ℕ) + e) := overflow_le_ten_zpow (by omega)
    _ = 10 ^ ((Nat.toDigits 10 m).length - 1) * 10 ^ e := by
        rw [zpow_add₀ (by norm_num), zpow_natCast]
    _ ≤ m * 10 ^ e := by gcongr

/-- The double of a decimal stands for its value, although powers of ten are bounded before. -/
theorem nearest_standsFor (digits : ℕ) (place : ℤ) :
    StandsFor (nearest digits place).toModel.unpack .positive (digits * 10 ^ place) := by
  have hreal := modelOfScientific_standsFor digits place
  unfold nearest
  dsimp only
  split_ifs with hzero hlarge hsmall
  · subst hzero
    rw [Nat.cast_zero, zero_mul]
    exact roundsTo_zero.standsFor
  · rw [hreal.infinity (overflow_le_of_size (Nat.pos_of_ne_zero hzero) hlarge)] at hreal
    exact hreal
  · rw [hreal.zero (mul_ten_le_underflow (lt_ten_pow_size digits) (by omega))] at hreal
    exact hreal
  · have hplace : (if decide (place < 0) then -place.natAbs else place.natAbs : ℤ) = place := by
      simp only [decide_eq_true_eq]
      omega
    have hliteral := ofScientific_standsFor digits (decide (place < 0)) place.natAbs
    rwa [hplace] at hliteral

end TelemetryAutomation.Decimal
