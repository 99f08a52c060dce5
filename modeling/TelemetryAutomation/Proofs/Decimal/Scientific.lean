import TelemetryAutomation.Proofs.Decimal.Nearest

/-!
# Doubles in scientific notation

The double of `m * 10 ^ e` is the nearest one. Small ones are found by one operation on doubles that are exact,
all others by one operation on mantissas of any size; each operation rounds once, and nothing is rounded
before. Powers of ten beyond all bounds are left out, where the nearest double is known.
-/

namespace TelemetryAutomation.Decimal

open Float.Model
open Float.Model.UnpackedFloat

variable {q : ℚ} {s : Sign}

/-- The double of a form: an infinity if the exponent is too large. -/
def double (s : Sign) (form : ℕ × ℤ) : UnpackedFloat :=
  if form.2 ≤ maxExponent then unbounded s form else .infinity s

/-- What comes out of an operation, before it is packed, is nearest to a quotient. -/
def RoundsTo (u : UnpackedFloat) (s : Sign) (q : ℚ) : Prop :=
  ∃ m e, Nearest q m e ∧ u = unbounded s (m, e)

/-- A double stands for a quotient: it is the nearest one, with a sign. -/
def StandsFor (u : UnpackedFloat) (s : Sign) (q : ℚ) : Prop :=
  ∃ m e, Nearest q m e ∧ u = double s (m, e)

/-- Packing a rounded result makes a double of it. -/
theorem unpack_pack_unbounded (s : Sign) {m : ℕ} {e : ℤ} (hform : Canonical m e) :
    (Float.Model.pack (unbounded s (m, e))).unpack = double s (m, e) := by
  show UnpackedFloat.unpack .binary64 (UnpackedFloat.pack .binary64 (unbounded s (m, e))) = _
  unfold double unbounded
  by_cases hm : m = 0
  · subst hm
    have he : e ≤ maxExponent := by
      have hbottom : e = -1074 := hform.normal.resolve_right (by norm_num)
      rw [hbottom]
      decide
    rw [dif_pos rfl, if_pos he]
    exact unpack_packedZero
  · rw [dif_neg hm]
    exact unpack_pack s _ hform

theorem RoundsTo.standsFor {u : UnpackedFloat} (h : RoundsTo u s q) :
    StandsFor (Float.Model.pack u).unpack s q := by
  obtain ⟨m, e, hnearest, rfl⟩ := h
  exact ⟨m, e, hnearest, unpack_pack_unbounded s hnearest.form⟩

/-- Rounding with an accuracy rounds to the quotient that the mantissa stands for. -/
theorem roundWithAccuracy_roundsTo (s : Sign) {m : ℕ} {e : ℤ} {accuracy : Accuracy} (hq : 0 ≤ q)
    (h : Represents (.ofMantissaAndAccuracy m accuracy) (q / 2 ^ e))
    (he : e ≤ Format.binary64.targetExponent (totalExponent m e)) :
    RoundsTo (roundWithAccuracy .binary64 s m e accuracy) s q := by
  obtain ⟨r, t, hgrid, heq⟩ := roundWithAccuracy_spec s h he
  exact ⟨_, _, hgrid.nearest_carry hq, heq⟩

/-! ## Operations -/

theorem represents_exact (m : ℕ) : Represents (.ofMantissaAndAccuracy m .exact) m := by
  show Represents ⟨m, false, false⟩ m
  simp [Represents, base]

/-- The accuracy of a fraction stands for what the fraction adds to the mantissa. -/
theorem represents_fraction (m : ℕ) {num den : ℕ} (h : num < den) :
    Represents (.ofMantissaAndAccuracy m (accuracyOfFraction num den)) (m + num / den) := by
  have hden : (0 : ℚ) < den := by exact_mod_cast Nat.zero_lt_of_lt h
  have hlt : (num : ℚ) / den < 1 := by
    rw [div_lt_one hden]
    exact_mod_cast h
  unfold accuracyOfFraction
  split_ifs with hnum
  · rw [hnum, Nat.cast_zero, zero_div, add_zero]
    exact represents_exact m
  · have hpos : (0 : ℚ) < num / den := by
      have hnum' : (0 : ℚ) < num := by exact_mod_cast Nat.pos_of_ne_zero hnum
      positivity
    cases hcompare : compare (2 * num) den with
    | lt =>
      have hhalf : (num : ℚ) / den < 1 / 2 := by
        rw [div_lt_div_iff₀ hden two_pos, one_mul, mul_comm]
        exact_mod_cast Nat.compare_eq_lt.mp hcompare
      show Represents ⟨m, false, true⟩ _
      simp only [Represents, base, Bool.false_eq_true, if_false, if_true]
      constructor <;> linarith
    | eq =>
      have hhalf : (num : ℚ) / den = 1 / 2 := by
        rw [div_eq_div_iff hden.ne' two_ne_zero, one_mul, mul_comm]
        exact_mod_cast Nat.compare_eq_eq.mp hcompare
      show Represents ⟨m, true, false⟩ _
      simp only [Represents, base, Bool.false_eq_true, if_false, if_true]
      linarith
    | gt =>
      have hhalf : (1 : ℚ) / 2 < num / den := by
        rw [div_lt_div_iff₀ two_pos hden, one_mul, mul_comm (num : ℚ)]
        exact_mod_cast Nat.compare_eq_gt.mp hcompare
      show Represents ⟨m, true, true⟩ _
      simp only [Represents, base, if_true]
      constructor <;> linarith

/-- A product of mantissas with enough bits is rounded once. -/
theorem mul_roundsTo {m₁ m₂ : ℕ} {e₁ e₂ : ℤ} (h₁ : 0 < m₁) (h₂ : 0 < m₂)
    (hbits : 2 ^ 52 ≤ m₁ * m₂) :
    RoundsTo (UnpackedFloat.mul .binary64 (.finite .positive m₁ e₁ h₁) (.finite .positive m₂ e₂ h₂))
      .positive (scaled m₁ e₁ * scaled m₂ e₂) := by
  have hvalue : scaled m₁ e₁ * scaled m₂ e₂ / 2 ^ (e₁ + e₂) = (m₁ * m₂ : ℕ) := by
    unfold scaled
    rw [zpow_add₀ two_ne_zero, div_eq_iff (mul_ne_zero (zpow_ne_zero _ two_ne_zero)
      (zpow_ne_zero _ two_ne_zero))]
    push_cast
    ring
  have hlog : 52 ≤ (m₁ * m₂).log2 := (Nat.le_log2 (Nat.mul_pos h₁ h₂).ne').mpr hbits
  refine roundWithAccuracy_roundsTo .positive ?_ (hvalue ▸ represents_exact _) ?_
  · unfold scaled
    positivity
  · rw [targetExponent_eq, totalExponent]
    omega

/-- A dividend that is shifted far enough leaves 53 bits for the quotient. -/
theorem two_pow_le_div {m₁ m₂ k : ℕ} (h₁ : 0 < m₁) (h₂ : 0 < m₂) (h : m₂.log2 + 53 ≤ m₁.log2 + k) :
    2 ^ 52 ≤ (m₁ <<< k) / m₂ := by
  rw [Nat.le_div_iff_mul_le h₂, Nat.shiftLeft_eq]
  calc 2 ^ 52 * m₂ ≤ 2 ^ 52 * 2 ^ (m₂.log2 + 1) := by
        gcongr
        exact Nat.lt_log2_self.le
    _ = 2 ^ (m₂.log2 + 53) := by
        rw [← pow_add]
        congr 1
        omega
    _ ≤ 2 ^ (m₁.log2 + k) := Nat.pow_le_pow_right two_pos h
    _ = 2 ^ m₁.log2 * 2 ^ k := pow_add _ _ _
    _ ≤ m₁ * 2 ^ k := by
        gcongr
        exact Nat.log2_self_le h₁.ne'

theorem cast_div_add_mod (a : ℕ) {b : ℕ} (hb : 0 < b) :
    ((a / b : ℕ) : ℚ) + (a % b : ℕ) / b = a / b := by
  have hsplit : (a : ℚ) = b * (a / b : ℕ) + (a % b : ℕ) := by exact_mod_cast (Nat.div_add_mod a b).symm
  have hpos : (0 : ℚ) < b := by exact_mod_cast hb
  rw [eq_div_iff hpos.ne', add_mul, div_mul_cancel₀ _ hpos.ne', mul_comm]
  exact hsplit.symm

/-- A quotient of mantissas is rounded once. -/
theorem div_roundsTo {m₁ m₂ : ℕ} {e₁ e₂ : ℤ} (h₁ : 0 < m₁) (h₂ : 0 < m₂) :
    RoundsTo (UnpackedFloat.div .binary64 (.finite .positive m₁ e₁ h₁) (.finite .positive m₂ e₂ h₂))
      .positive (scaled m₁ e₁ / scaled m₂ e₂) := by
  let t := min (e₁ - e₂) (Format.binary64.targetExponent (totalExponent m₁ e₁ - totalExponent m₂ e₂))
  let k := (e₁ - e₂ - t).toNat
  have ht : t ≤ e₁ - e₂ := min_le_left _ _
  have hdiv : UnpackedFloat.div .binary64 (.finite .positive m₁ e₁ h₁) (.finite .positive m₂ e₂ h₂) =
      roundWithAccuracy .binary64 .positive (m₁ <<< k / m₂) t (accuracyOfFraction (m₁ <<< k % m₂) m₂) := rfl
  rw [hdiv]
  have hvalue : scaled m₁ e₁ / scaled m₂ e₂ / 2 ^ t =
      (m₁ <<< k / m₂ : ℕ) + (m₁ <<< k % m₂ : ℕ) / (m₂ : ℚ) := by
    have hpow : (2 : ℚ) ^ e₁ = 2 ^ k * (2 ^ e₂ * 2 ^ t) := by
      rw [← zpow_natCast, ← zpow_add₀ two_ne_zero, ← zpow_add₀ two_ne_zero]
      congr 1
      omega
    rw [cast_div_add_mod _ h₂, Nat.shiftLeft_eq, scaled, scaled, hpow]
    push_cast
    field_simp
  refine roundWithAccuracy_roundsTo .positive ?_ ?_ ?_
  · unfold scaled
    positivity
  · rw [hvalue]
    exact represents_fraction _ (Nat.mod_lt _ h₂)
  · rw [targetExponent_eq, totalExponent]
    by_cases hfine : t ≤ -1074
    · omega
    · have hgrid : t ≤ max (totalExponent m₁ e₁ - totalExponent m₂ e₂ - 53) (-1074) := min_le_right _ _
      rw [totalExponent, totalExponent] at hgrid
      have hbits : 2 ^ 52 ≤ m₁ <<< k / m₂ := two_pow_le_div h₁ h₂ (by omega)
      have hlog := (Nat.le_log2 (by omega)).mpr hbits
      omega

/-! ## Powers of ten -/

theorem nearest_zero : Nearest 0 0 (-1074) where
  nonneg := le_rfl
  form := canonical_zero
  near m' e' _ := by
    rw [scaled_zero, sub_zero, abs_zero]
    exact abs_nonneg _
  even _ _ _ _ := .inr rfl

/-- Beyond the finite doubles a quotient stands for infinity. -/
theorem StandsFor.infinity {u : UnpackedFloat} (h : StandsFor u s q) (hq : overflow ≤ q) :
    u = .infinity s := by
  obtain ⟨m, e, hnearest, rfl⟩ := h
  rw [double, if_neg (not_le.mpr (hnearest.maxExponent_lt_iff.mpr hq))]

/-- Up to half of the smallest double a quotient stands for zero. -/
theorem StandsFor.zero {u : UnpackedFloat} (h : StandsFor u s q) (hq : q ≤ underflow) : u = .zero s := by
  obtain ⟨m, e, hnearest, rfl⟩ := h
  obtain rfl := hnearest.eq_zero_iff.mpr hq
  have he : e ≤ maxExponent := by
    have hbottom : e = -1074 := hnearest.form.normal.resolve_right (by norm_num)
    rw [hbottom]
    decide
  rw [double, if_pos he]
  rfl

theorem overflow_le_ten_zpow {n : ℤ} (h : 309 ≤ n) : overflow ≤ 10 ^ n := by
  have hpow : (2 : ℚ) ^ 1024 ≤ 10 ^ 309 := by
    have hnat : 2 ^ 1024 ≤ 10 ^ 309 := by decide +kernel
    exact_mod_cast hnat
  have hstep : (0 : ℚ) < 2 ^ 970 := pow_pos two_pos _
  calc overflow ≤ 2 ^ 1024 := sub_le_self _ hstep.le
    _ ≤ 10 ^ 309 := hpow
    _ = 10 ^ (309 : ℤ) := (zpow_natCast 10 309).symm
    _ ≤ 10 ^ n := zpow_le_zpow_right₀ (by norm_num) h

theorem ten_zpow_le_underflow {n : ℤ} (h : n ≤ -331) : (10 : ℚ) ^ n ≤ underflow := by
  have hpow : (2 : ℚ) ^ 1075 ≤ 10 ^ 331 := by
    have hnat : 2 ^ 1075 ≤ 10 ^ 331 := by decide +kernel
    exact_mod_cast hnat
  calc (10 : ℚ) ^ n ≤ 10 ^ (-331 : ℤ) := zpow_le_zpow_right₀ (by norm_num) h
    _ = (10 ^ 331)⁻¹ := by rw [zpow_neg]; rfl
    _ ≤ (2 ^ 1075)⁻¹ := inv_anti₀ (pow_pos two_pos _) hpow
    _ = underflow := by rw [underflow, zpow_neg]; rfl

end TelemetryAutomation.Decimal
