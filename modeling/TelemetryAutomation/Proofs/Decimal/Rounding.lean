import TelemetryAutomation.Proofs.Decimal.Double

/-!
# Rounding

A quotient is rounded on the grid of its size: the multiples of `2 ^ t`, where `t` leaves 53 bits for the
multiple, or is as small as it can be. `Grid` says which multiple is taken, the nearest one and of two the
even one. Rounding a mantissa bit by bit takes it, `roundWithAccuracy_spec`.
-/

namespace TelemetryAutomation.Decimal

open Float.Model
open Float.Model.UnpackedFloat

/-- A natural number is nearest to a quotient, and even if it lies half way. -/
structure NearestNat (r : ℕ) (q : ℚ) : Prop where
  near : |(r : ℚ) - q| ≤ 1 / 2
  even : |(r : ℚ) - q| = 1 / 2 → r % 2 = 0

theorem NearestNat.of_lt {r : ℕ} {q : ℚ} (h : |(r : ℚ) - q| < 1 / 2) : NearestNat r q :=
  ⟨h.le, fun heq => absurd heq h.ne⟩

/-! ## Bits behind the mantissa -/

/-- The value of a mantissa with its round bit. -/
def base (em : ExtendedMantissa) : ℚ := em.mantissa + if em.roundBit then 1 / 2 else 0

/-- An extended mantissa stands for a quotient: the sticky bit says whether something is left beyond the round
bit. -/
def Represents (em : ExtendedMantissa) (q : ℚ) : Prop :=
  if em.stickyBit then base em < q ∧ q < base em + 1 / 2 else q = base em

namespace Represents

variable {em : ExtendedMantissa} {q : ℚ}

theorem bounds (h : Represents em q) : (em.mantissa : ℚ) ≤ q ∧ q < em.mantissa + 1 := by
  obtain ⟨m, round, sticky⟩ := em
  unfold Represents base at h
  cases round <;> cases sticky <;> norm_num at h ⊢ <;> constructor <;> linarith

/-- Taking the last bit away halves the value, up to the round bit. -/
theorem base_shiftRightOne (em : ExtendedMantissa) :
    base em / 2 = base em.shiftRightOne + if em.roundBit then 1 / 4 else 0 := by
  have hsplit : (em.mantissa : ℚ) = 2 * (em.mantissa / 2 : ℕ) + (em.mantissa % 2 : ℕ) := by
    exact_mod_cast (Nat.div_add_mod em.mantissa 2).symm
  unfold base ExtendedMantissa.shiftRightOne
  rw [hsplit]
  rcases Nat.mod_two_eq_zero_or_one em.mantissa with hbit | hbit
  all_goals
    cases em.roundBit <;> simp [hbit] <;> ring

/-- Half of a quotient is represented by the mantissa without its last bit. -/
theorem shiftRightOne (h : Represents em q) : Represents em.shiftRightOne (q / 2) := by
  have hbase := base_shiftRightOne em
  unfold Represents at h ⊢
  generalize base em.shiftRightOne = half at hbase ⊢
  have hsticky : em.shiftRightOne.stickyBit = (em.roundBit || em.stickyBit) := rfl
  rw [hsticky]
  cases hround : em.roundBit <;> cases hleft : em.stickyBit
  all_goals
    simp only [hround, hleft, Bool.or_true, Bool.or_false, if_true, Bool.false_eq_true, if_false] at h hbase ⊢
  · linarith
  · constructor <;> linarith
  · constructor <;> linarith
  · constructor <;> linarith

theorem shiftRight (h : Represents em q) (k : ℕ) : Represents (em >>> k) (q / 2 ^ k) := by
  show Represents (k.repeat ExtendedMantissa.shiftRightOne em) _
  induction k with
  | zero => simpa [Nat.repeat] using h
  | succ k ih =>
    rw [Nat.repeat, pow_succ, ← div_div]
    exact ih.shiftRightOne

/-- Rounding a mantissa gives the nearest number, and the even one of two. -/
theorem roundedMantissa (h : Represents em q) : NearestNat em.roundedMantissa q := by
  obtain ⟨m, round, sticky⟩ := em
  unfold Represents base at h
  cases round <;> cases sticky
  all_goals simp only [Bool.false_eq_true, if_false, if_true] at h
  · have hdist : |(m : ℚ) - q| < 1 / 2 := by
      rw [h, add_zero, sub_self, abs_zero]
      norm_num
    exact .of_lt hdist
  · have hdist : |(m : ℚ) - q| < 1 / 2 := by
      rw [abs_lt]
      constructor <;> linarith
    exact .of_lt hdist
  · -- half way, so that the parity decides
    have hrounded : (ExtendedMantissa.mk m true false).roundedMantissa = m + m % 2 := rfl
    rw [hrounded]
    refine ⟨?_, fun _ => by omega⟩
    rcases Nat.mod_two_eq_zero_or_one m with hbit | hbit
    all_goals
      rw [hbit, h, abs_le]
      push_cast
      constructor <;> linarith
  · have hdist : |((m + 1 : ℕ) : ℚ) - q| < 1 / 2 := by
      push_cast
      rw [abs_lt]
      constructor <;> linarith
    exact .of_lt hdist

end Represents

/-! ## The grid -/

/-- The multiple `r` of `2 ^ t` to which a quotient is rounded. The grid has 53 bits for the quotient, or it is
the finest one. -/
structure Grid (q : ℚ) (r : ℕ) (t : ℤ) : Prop where
  le : -1074 ≤ t
  lower : t = -1074 ∨ 2 ^ 52 * 2 ^ t ≤ q
  upper : q < 2 ^ 53 * 2 ^ t
  nearest : NearestNat r (q / 2 ^ t)

theorem targetExponent_eq (n : ℤ) : Format.binary64.targetExponent n = max (n - 53) (-1074) := rfl

/-- The grid that is aimed at has 53 bits for whatever the mantissa stands for. -/
theorem grid_bounds {em : ExtendedMantissa} {q : ℚ} {e t : ℤ} (h : Represents em (q / 2 ^ e))
    (ht : t = Format.binary64.targetExponent (totalExponent em.mantissa e)) (he : e ≤ t) :
    (t = -1074 ∨ 2 ^ 52 * 2 ^ t ≤ q) ∧ q < 2 ^ 53 * 2 ^ t := by
  obtain ⟨hlow, hhigh⟩ := h.bounds
  have htwo (n : ℤ) : (0 : ℚ) < 2 ^ n := zpow_pos two_pos n
  rw [le_div_iff₀ (htwo e)] at hlow
  rw [div_lt_iff₀ (htwo e)] at hhigh
  rw [targetExponent_eq, totalExponent] at ht
  constructor
  · by_cases hbottom : t = -1074
    · exact .inl hbottom
    · right
      have hlog : t + 52 = em.mantissa.log2 + e := by omega
      have hpos : em.mantissa ≠ 0 := by
        intro hzero
        rw [hzero, Nat.log2_zero] at hlog
        omega
      have hself : (2 : ℚ) ^ em.mantissa.log2 ≤ em.mantissa := by
        exact_mod_cast Nat.log2_self_le hpos
      calc (2 : ℚ) ^ 52 * 2 ^ t = 2 ^ em.mantissa.log2 * 2 ^ e := by
            rw [← zpow_natCast, ← zpow_natCast, ← zpow_add₀ two_ne_zero, ← zpow_add₀ two_ne_zero]
            congr 1
            push_cast
            omega
        _ ≤ em.mantissa * 2 ^ e := by gcongr
        _ ≤ q := hlow
  · have hself : (em.mantissa : ℚ) + 1 ≤ 2 ^ (em.mantissa.log2 + 1) := by
      exact_mod_cast Nat.lt_log2_self
    calc q < (em.mantissa + 1) * 2 ^ e := hhigh
      _ ≤ 2 ^ (em.mantissa.log2 + 1) * 2 ^ e := by gcongr
      _ = 2 ^ ((em.mantissa.log2 + 1 : ℕ) + e : ℤ) := by
          rw [zpow_add₀ two_ne_zero, zpow_natCast]
      _ ≤ 2 ^ (53 + t) := by
          apply zpow_le_zpow_right₀ one_le_two
          push_cast
          omega
      _ = 2 ^ 53 * 2 ^ t := by
          rw [zpow_add₀ two_ne_zero]
          rfl

theorem NearestNat.le_of_lt {r n : ℕ} {q : ℚ} (h : NearestNat r q) (hq : q < n) : r ≤ n := by
  have hnear := (abs_le.mp h.near).2
  have hlt : (r : ℚ) < (n + 1 : ℕ) := by
    push_cast
    linarith
  exact Nat.lt_succ_iff.mp (Nat.cast_lt.mp hlt)

theorem Grid.le_two_pow {q : ℚ} {r : ℕ} {t : ℤ} (h : Grid q r t) : r ≤ 2 ^ 53 := by
  refine h.nearest.le_of_lt ?_
  rw [div_lt_iff₀ (zpow_pos two_pos t)]
  exact_mod_cast h.upper

/-! ## Doubles with unbounded exponents -/

/-- A multiple that has outgrown 53 bits is one with a larger exponent. -/
def carry (r : ℕ) (t : ℤ) : ℕ × ℤ := if r < 2 ^ 53 then (r, t) else (2 ^ 52, t + 1)

/-- An unpacked double with any exponent. -/
def unbounded (s : Sign) (form : ℕ × ℤ) : UnpackedFloat :=
  if h : form.1 = 0 then .zero s else .finite s form.1 form.2 (Nat.pos_of_ne_zero h)

/-- A rounded mantissa is shifted once more if it has outgrown 53 bits. -/
theorem shiftToTargetExponent_of_le {r : ℕ} {t : ℤ} (hr : r ≤ 2 ^ 53) (ht : -1074 ≤ t) :
    let shifted := shiftToTargetExponent .binary64 r t .exact
    (shifted.1.mantissa, shifted.2) = carry r t := by
  unfold shiftToTargetExponent shiftToExponent carry
  rw [targetExponent_eq, totalExponent]
  dsimp only
  split_ifs with hlt
  · have hlog : r.log2 < 53 := by
      by_cases hzero : r = 0
      · rw [hzero, Nat.log2_zero]
        omega
      · exact (Nat.log2_lt hzero).mpr hlt
    have hshift : (max ((r.log2 : ℤ) + 1 + t - 53) (-1074) - t).toNat = 0 := by omega
    rw [hshift, Int.natCast_zero, add_zero]
    rfl
  · obtain rfl : r = 2 ^ 53 := by omega
    have hshift : (max (((2 ^ 53).log2 : ℤ) + 1 + t - 53) (-1074) - t).toNat = 1 := by
      rw [Nat.log2_two_pow]
      omega
    rw [hshift]
    rfl

/-- **Rounding with an accuracy.** If a mantissa and its accuracy stand for a quotient at an exponent that is
not beyond the grid, then rounding takes the multiple on the grid. -/
theorem roundWithAccuracy_spec (s : Sign) {m : ℕ} {e : ℤ} {accuracy : Accuracy} {q : ℚ}
    (h : Represents (.ofMantissaAndAccuracy m accuracy) (q / 2 ^ e))
    (he : e ≤ Format.binary64.targetExponent (totalExponent m e)) :
    ∃ r t, Grid q r t ∧ roundWithAccuracy .binary64 s m e accuracy = unbounded s (carry r t) := by
  generalize ht : Format.binary64.targetExponent (totalExponent m e) = t at he
  have hmantissa : (ExtendedMantissa.ofMantissaAndAccuracy m accuracy).mantissa = m := by
    unfold ExtendedMantissa.ofMantissaAndAccuracy
    split <;> rfl
  have hle : -1074 ≤ t := by
    rw [← ht, targetExponent_eq]
    exact le_max_right _ _
  obtain ⟨hlower, hupper⟩ := grid_bounds h (by rw [hmantissa, ht]) he
  -- the first shift moves the mantissa onto the grid
  have hshifted : Represents (ExtendedMantissa.ofMantissaAndAccuracy m accuracy >>> (t - e).toNat)
      (q / 2 ^ t) := by
    have hpow : (2 : ℚ) ^ t = 2 ^ e * 2 ^ (t - e).toNat := by
      rw [← zpow_natCast, ← zpow_add₀ two_ne_zero]
      congr 1
      omega
    rw [hpow, ← div_div]
    exact h.shiftRight _
  generalize hem : ExtendedMantissa.ofMantissaAndAccuracy m accuracy >>> (t - e).toNat = em at hshifted
  have hgrid : Grid q em.roundedMantissa t := ⟨hle, hlower, hupper, hshifted.roundedMantissa⟩
  refine ⟨em.roundedMantissa, t, hgrid, ?_⟩
  have hfirst : shiftToTargetExponent .binary64 m e accuracy = (em, t) := by
    have hexponent : e + ((t - e).toNat : ℤ) = t := by omega
    rw [shiftToTargetExponent, ht, shiftToExponent, hem, hexponent]
  have hcarry := shiftToTargetExponent_of_le hgrid.le_two_pow hle
  rw [roundWithAccuracy, hfirst, ← hcarry]
  rfl

end TelemetryAutomation.Decimal
