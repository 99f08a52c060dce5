import TelemetryAutomation.Proofs.Decimal.Rounding

/-!
# The nearest double

`Nearest` says which double stands for a quotient as if exponents had no upper bound: the nearest one, and of
two the one with the even mantissa. Rounding on the grid of a quotient finds it. It is zero up to half of the
smallest double, and it is too large for a finite double from half way behind the largest one on.
-/

namespace TelemetryAutomation.Decimal

open Float.Model
open Float.Model.UnpackedFloat

variable {q : ℚ} {r m : ℕ} {t e : ℤ}

/-- The value of a mantissa and an exponent. -/
def scaled (m : ℕ) (e : ℤ) : ℚ := m * 2 ^ e

/-- A canonical form is nearest to a quotient. If another one is as near, its mantissa is even. -/
structure Nearest (q : ℚ) (m : ℕ) (e : ℤ) : Prop where
  nonneg : 0 ≤ q
  form : Canonical m e
  near : ∀ m' e', Canonical m' e' → |scaled m e - q| ≤ |scaled m' e' - q|
  even : ∀ m' e', Canonical m' e' → |scaled m' e' - q| = |scaled m e - q| →
    scaled m' e' = scaled m e ∨ m % 2 = 0

/-! ## Rounding finds the nearest form -/

theorem NearestNat.le_of_le {n : ℕ} (h : NearestNat r q) (hq : (n : ℚ) ≤ q) : n ≤ r := by
  have hnear := (abs_le.mp h.near).1
  have hlt : (n : ℚ) < (r + 1 : ℕ) := by
    push_cast
    linarith
  exact Nat.lt_succ_iff.mp (Nat.cast_lt.mp hlt)

/-- No whole number is nearer, and one that is as near is the same or leaves an even one. -/
theorem NearestNat.le_abs (h : NearestNat r q) (n : ℤ) :
    |(r : ℚ) - q| ≤ |(n : ℚ) - q| ∧ (|(n : ℚ) - q| = |(r : ℚ) - q| → n = r ∨ r % 2 = 0) := by
  by_cases heq : n = r
  · subst heq
    exact ⟨le_rfl, fun _ => .inl rfl⟩
  · -- whole numbers are at least one apart
    have hapart : (1 : ℚ) ≤ |(n : ℚ) - r| := by
      have hone : (1 : ℤ) ≤ |n - r| := Int.one_le_abs (sub_ne_zero.mpr heq)
      exact_mod_cast hone
    have htriangle : |(n : ℚ) - r| ≤ |(n : ℚ) - q| + |(r : ℚ) - q| := by
      rw [abs_sub_comm (r : ℚ) q]
      exact abs_sub_le _ _ _
    have hnear := h.near
    refine ⟨by linarith, fun hsame => .inr (h.even ?_)⟩
    linarith

namespace Grid

/-- A canonical form lies on the grid, or a point of the grid lies between it and the quotient. -/
theorem canonical_cases (h : Grid q r t) {m' : ℕ} {e' : ℤ} (hform : Canonical m' e') :
    (∃ n : ℤ, scaled m' e' = n * 2 ^ t) ∨
      ∃ n : ℤ, scaled m' e' < n * 2 ^ t ∧ (n : ℚ) * 2 ^ t ≤ q := by
  by_cases hle : t ≤ e'
  · left
    refine ⟨m' * 2 ^ (e' - t).toNat, ?_⟩
    unfold scaled
    push_cast
    rw [mul_assoc, ← zpow_natCast, ← zpow_add₀ two_ne_zero]
    congr 2
    omega
  · right
    have hfine := hform.le
    have hcast : ((2 ^ 52 : ℤ) : ℚ) = 2 ^ 52 := by rw [Int.cast_pow, Int.cast_ofNat]
    refine ⟨2 ^ 52, ?_, hcast ▸ h.lower.resolve_left (by omega)⟩
    have hlt : (m' : ℚ) < 2 ^ 53 := by exact_mod_cast hform.lt
    calc scaled m' e' < 2 ^ 53 * 2 ^ e' := by
          unfold scaled
          gcongr
      _ ≤ 2 ^ 53 * 2 ^ (t - 1) := by
          gcongr
          · exact one_le_two
          · omega
      _ = 2 ^ 52 * 2 ^ t := by
          rw [zpow_sub_one₀ two_ne_zero]
          ring
      _ = ((2 ^ 52 : ℤ) : ℚ) * 2 ^ t := by rw [hcast]

theorem abs_eq (x : ℚ) (q : ℚ) (t : ℤ) : |x * 2 ^ t - q| = |x - q / 2 ^ t| * 2 ^ t := by
  have hpos : (0 : ℚ) < 2 ^ t := zpow_pos two_pos t
  rw [← abs_of_pos hpos, ← abs_mul, abs_of_pos hpos, sub_mul, div_mul_cancel₀ _ hpos.ne']

theorem le_abs (h : Grid q r t) (n : ℤ) :
    |(r : ℚ) * 2 ^ t - q| ≤ |(n : ℚ) * 2 ^ t - q| ∧
      (|(n : ℚ) * 2 ^ t - q| = |(r : ℚ) * 2 ^ t - q| → n = r ∨ r % 2 = 0) := by
  have hpos : (0 : ℚ) < 2 ^ t := zpow_pos two_pos t
  obtain ⟨hle, heven⟩ := h.nearest.le_abs n
  rw [abs_eq, abs_eq]
  refine ⟨by gcongr, fun hsame => heven ?_⟩
  exact mul_right_cancel₀ hpos.ne' hsame

/-- What lies below a point of the grid that is not beyond the quotient is farther away. -/
theorem lt_abs (h : Grid q r t) {n : ℤ} {y : ℚ} (hbelow : y < n * 2 ^ t) (hle : (n : ℚ) * 2 ^ t ≤ q) :
    |(r : ℚ) * 2 ^ t - q| < |y - q| := by
  refine (h.le_abs n).1.trans_lt ?_
  rw [abs_of_nonpos (by linarith : (n : ℚ) * 2 ^ t - q ≤ 0), abs_of_neg (by linarith : y - q < 0)]
  linarith

theorem scaled_carry (h : Grid q r t) : scaled (carry r t).1 (carry r t).2 = r * 2 ^ t := by
  have hmax := h.le_two_pow
  unfold carry scaled
  split_ifs with hlt
  · rfl
  · obtain rfl : r = 2 ^ 53 := by omega
    dsimp only
    rw [zpow_add_one₀ two_ne_zero]
    push_cast
    ring

theorem canonical_carry (h : Grid q r t) : Canonical (carry r t).1 (carry r t).2 := by
  have hle := h.le
  unfold carry
  split_ifs with hlt
  · refine ⟨hlt, hle, h.lower.imp_right fun hlower => ?_⟩
    apply h.nearest.le_of_le
    rw [le_div_iff₀ (zpow_pos two_pos t)]
    exact_mod_cast hlower
  · exact ⟨by norm_num, by dsimp only; omega, .inr le_rfl⟩

theorem carry_even (heven : r % 2 = 0) : (carry r t).1 % 2 = 0 := by
  unfold carry
  split_ifs
  · exact heven
  · norm_num

/-- The multiple on the grid is the nearest double. -/
theorem nearest_carry (h : Grid q r t) (hq : 0 ≤ q) : Nearest q (carry r t).1 (carry r t).2 := by
  refine ⟨hq, h.canonical_carry, ?_, ?_⟩
  · intro m' e' hform
    rw [h.scaled_carry]
    rcases h.canonical_cases hform with ⟨n, heq⟩ | ⟨n, hbelow, hle⟩
    · rw [heq]
      exact (h.le_abs n).1
    · exact (h.lt_abs hbelow hle).le
  · intro m' e' hform hsame
    rw [h.scaled_carry] at hsame ⊢
    rcases h.canonical_cases hform with ⟨n, heq⟩ | ⟨n, hbelow, hle⟩
    · rw [heq] at hsame ⊢
      rcases (h.le_abs n).2 hsame with rfl | heven
      · exact .inl rfl
      · exact .inr (carry_even heven)
    · exact absurd hsame (h.lt_abs hbelow hle).ne'

end Grid

/-! ## Where doubles begin and end -/

/-- Half of the smallest positive double. -/
def underflow : ℚ := 2 ^ (-1075 : ℤ)

theorem underflow_pos : 0 < underflow := zpow_pos two_pos _

theorem canonical_zero : Canonical 0 (-1074) := ⟨by norm_num, le_rfl, .inl rfl⟩

theorem scaled_zero (e : ℤ) : scaled 0 e = 0 := by
  rw [scaled, Nat.cast_zero, zero_mul]

theorem scaled_one : scaled 1 (-1074) = 2 * underflow := by
  unfold scaled underflow
  rw [Nat.cast_one, one_mul, ← zpow_one_add₀ two_ne_zero]
  norm_num

theorem le_scaled (hform : Canonical m e) : (m : ℚ) * (2 * underflow) ≤ scaled m e := by
  rw [← scaled_one, scaled, scaled, Nat.cast_one, one_mul]
  gcongr
  · exact one_le_two
  · exact hform.le

/-- The nearest double is zero up to half of the smallest positive one. -/
theorem Nearest.eq_zero_iff (h : Nearest q m e) : m = 0 ↔ q ≤ underflow := by
  have hnonneg := h.nonneg
  have hunit := underflow_pos
  constructor
  · rintro rfl
    have hone := h.near 1 (-1074) ⟨by norm_num, le_rfl, .inl rfl⟩
    rw [scaled_zero, scaled_one, zero_sub, abs_neg, abs_of_nonneg hnonneg] at hone
    by_contra hlarge
    have hnear : |2 * underflow - q| < q := abs_lt.mpr ⟨by linarith, by linarith⟩
    linarith
  · intro hsmall
    by_contra hm
    have hzero := h.near 0 (-1074) canonical_zero
    rw [scaled_zero, zero_sub, abs_neg, abs_of_nonneg hnonneg] at hzero
    have hupper := (abs_le.mp hzero).2
    have hlower := le_scaled h.form
    -- only the smallest double is left, and it is odd
    have hmant : (m : ℚ) * (2 * underflow) ≤ 1 * (2 * underflow) := by linarith
    have hle : (m : ℚ) ≤ 1 := le_of_mul_le_mul_right hmant (by linarith)
    obtain rfl : m = 1 := le_antisymm (by exact_mod_cast hle) (Nat.one_le_iff_ne_zero.mpr hm)
    have hsame : |scaled 0 (-1074) - q| = |scaled 1 e - q| := by
      push_cast at hlower
      rw [scaled_zero, zero_sub, abs_neg, abs_of_nonneg hnonneg, abs_of_nonneg (by linarith)]
      linarith
    rcases h.even 0 (-1074) canonical_zero hsame with hval | hodd
    · push_cast at hlower
      rw [scaled_zero] at hval
      linarith
    · cases hodd

/-- Half way between the largest double and the power of two behind it. -/
def overflow : ℚ := 2 ^ 1024 - 2 ^ 970

/-- Everything about overflow is said in multiples of this one. -/
def step : ℚ := 2 ^ (970 : ℤ)

theorem step_pos : 0 < step := zpow_pos two_pos _

theorem overflow_eq : overflow = (2 ^ 54 - 1) * step := by
  have hsplit : (2 : ℚ) ^ 1024 = 2 ^ 54 * 2 ^ 970 := pow_add 2 54 970
  have hcast : step = 2 ^ 970 := zpow_natCast 2 970
  rw [overflow, hsplit, hcast, sub_mul, one_mul]

theorem underflow_lt_one : underflow < 1 := zpow_lt_one_of_neg₀ one_lt_two (by norm_num)

theorem two_pow_lt_overflow : 2 ^ 64 < overflow := by
  have hstep : (2 : ℚ) ^ (64 : ℤ) ≤ step := zpow_le_zpow_right₀ one_le_two (by norm_num)
  have hcast : (2 : ℚ) ^ (64 : ℤ) = 2 ^ 64 := zpow_natCast 2 64
  rw [overflow_eq]
  linarith

theorem underflow_lt_overflow : underflow < overflow :=
  (underflow_lt_one.trans (by norm_num)).trans two_pow_lt_overflow

theorem scaled_largest : scaled (2 ^ 53 - 1) 971 = (2 ^ 54 - 2) * step := by
  have hstep : (2 : ℚ) ^ (971 : ℤ) = 2 * step := by
    rw [step, ← zpow_one_add₀ two_ne_zero]
    rfl
  rw [scaled, hstep, Nat.cast_sub Nat.one_le_two_pow]
  push_cast
  ring

theorem scaled_beyond : scaled (2 ^ 52) 972 = 2 ^ 54 * step := by
  have hstep : (2 : ℚ) ^ (972 : ℤ) = 4 * step := by
    have hfour : (4 : ℚ) = 2 ^ (2 : ℤ) := by norm_num
    rw [step, hfour, ← zpow_add₀ two_ne_zero]
    rfl
  rw [scaled, hstep]
  push_cast
  ring

theorem canonical_largest : Canonical (2 ^ 53 - 1) 971 := ⟨by norm_num, by norm_num, .inr (by norm_num)⟩

theorem canonical_beyond : Canonical (2 ^ 52) 972 := ⟨by norm_num, by norm_num, .inr le_rfl⟩

/-- Forms with larger exponents are beyond the finite doubles. -/
theorem le_scaled_of_lt (hform : Canonical m e) (he : maxExponent < e) : 2 ^ 54 * step ≤ scaled m e := by
  unfold maxExponent at he
  have hm : 2 ^ 52 ≤ m := hform.normal.resolve_left (by omega)
  rw [← scaled_beyond, scaled, scaled]
  gcongr
  · exact one_le_two
  · omega

/-- The finite doubles end with the largest one. -/
theorem scaled_le (hform : Canonical m e) (he : e ≤ maxExponent) : scaled m e ≤ (2 ^ 54 - 2) * step := by
  have hm : m ≤ 2 ^ 53 - 1 := by
    have hlt := hform.lt
    omega
  rw [← scaled_largest, scaled, scaled]
  gcongr
  · exact one_le_two
  · exact he

/-- The largest double is odd. -/
theorem odd_of_scaled_eq (hform : Canonical m e) (he : e ≤ maxExponent)
    (h : scaled m e = (2 ^ 54 - 2) * step) : m % 2 = 1 := by
  have hunit := step_pos
  have hmax : e = 971 := by
    unfold maxExponent at he
    by_contra hne
    have hlt : (m : ℚ) < 2 ^ 53 := by exact_mod_cast hform.lt
    have hsmall : scaled m e < 2 ^ 53 * step := by
      calc scaled m e < 2 ^ 53 * 2 ^ e := by
            unfold scaled
            gcongr
        _ ≤ 2 ^ 53 * step :=
            mul_le_mul_of_nonneg_left (zpow_le_zpow_right₀ one_le_two (by omega)) (by norm_num)
    linarith
  subst hmax
  rw [← scaled_largest, scaled, scaled] at h
  have hm : m = 2 ^ 53 - 1 :=
    Nat.cast_injective (mul_right_cancel₀ (zpow_ne_zero _ two_ne_zero) h)
  omega

/-- The nearest form is beyond the finite doubles from half way behind the largest one on. -/
theorem Nearest.maxExponent_lt_iff (h : Nearest q m e) : maxExponent < e ↔ overflow ≤ q := by
  have hunit := step_pos
  rw [overflow_eq]
  constructor
  · intro he
    by_contra hsmall
    have hlarge := le_scaled_of_lt h.form he
    have hlast := h.near _ _ canonical_largest
    rw [scaled_largest, abs_of_nonneg (by linarith)] at hlast
    have hnear : |(2 ^ 54 - 2) * step - q| < scaled m e - q := abs_lt.mpr ⟨by linarith, by linarith⟩
    linarith
  · intro hlarge
    by_contra he
    have hfinite := scaled_le h.form (not_lt.mp he)
    have hbeyond := h.near _ _ canonical_beyond
    rw [scaled_beyond, abs_of_nonpos (by linarith)] at hbeyond
    -- the power of two is as near, which leaves the largest double only
    obtain ⟨hlast, rfl⟩ : scaled m e = (2 ^ 54 - 2) * step ∧ (2 ^ 54 - 1) * step = q := by
      rcases le_abs.mp hbeyond with hright | hleft
      · constructor <;> linarith
      · constructor <;> linarith
    have hsame : |scaled (2 ^ 52) 972 - (2 ^ 54 - 1) * step| =
        |scaled m e - (2 ^ 54 - 1) * step| := by
      rw [scaled_beyond, hlast, abs_of_nonneg (by linarith), abs_of_nonpos (by linarith)]
      ring
    rcases h.even _ _ canonical_beyond hsame with hval | heven
    · rw [scaled_beyond, hlast] at hval
      linarith
    · have hodd := odd_of_scaled_eq h.form (not_lt.mp he) hlast
      omega

/-! ## The nearest form is unique -/

/-- Of two canonical forms the one with the larger exponent has the larger value. -/
theorem scaled_lt_of_lt {m' : ℕ} {e' : ℤ} (hform : Canonical m e) (hform' : Canonical m' e') (h : e < e') :
    scaled m e < scaled m' e' := by
  have hlower : 2 ^ 52 ≤ m' := by
    refine hform'.normal.resolve_left ?_
    have hle := hform.le
    omega
  have hlt : (m : ℚ) < 2 ^ 53 := by exact_mod_cast hform.lt
  have hle : (2 : ℚ) ^ 52 ≤ m' := by exact_mod_cast hlower
  calc scaled m e < 2 ^ 53 * 2 ^ e := by
        unfold scaled
        gcongr
    _ = 2 ^ 52 * 2 ^ (e + 1) := by
        rw [zpow_add_one₀ two_ne_zero]
        ring
    _ ≤ m' * 2 ^ e' := by
        gcongr
        · exact one_le_two
        · exact h

/-- A value has only one canonical form. -/
theorem Canonical.eq_of_scaled_eq {m' : ℕ} {e' : ℤ} (hform : Canonical m e) (hform' : Canonical m' e')
    (h : scaled m e = scaled m' e') : m = m' ∧ e = e' := by
  obtain rfl : e = e' := by
    rcases lt_trichotomy e e' with hlt | heq | hlt
    · exact absurd h (scaled_lt_of_lt hform hform' hlt).ne
    · exact heq
    · exact absurd h (scaled_lt_of_lt hform' hform hlt).ne'
  exact ⟨Nat.cast_injective (mul_right_cancel₀ (zpow_ne_zero _ two_ne_zero) h), rfl⟩

/-- What is as far above the quotient as the nearest form is below is not beyond the successor of the form. -/
theorem Nearest.le_scaled_succ {y : ℚ} (h : Nearest q m e) (hsucc : Canonical (m + 1) e)
    (hhalf : y - q = q - scaled m e) : y ≤ scaled (m + 1) e := by
  have hpos : (0 : ℚ) < 2 ^ e := zpow_pos two_pos e
  have hstep : scaled (m + 1) e = scaled m e + 2 ^ e := by
    rw [scaled, scaled, Nat.cast_add_one, add_mul, one_mul]
  by_contra hbelow
  have hnear : |scaled (m + 1) e - q| < q - scaled m e := abs_lt.mpr ⟨by linarith, by linarith⟩
  have hfar := h.near _ _ hsucc
  rw [abs_of_nonpos (by linarith : scaled m e - q ≤ 0)] at hfar
  linarith

/-- Of two nearest forms neither is below the other: between them lies the successor of the lower one. -/
theorem Nearest.scaled_le {m' : ℕ} {e' : ℤ} (h : Nearest q m e) (h' : Nearest q m' e') :
    scaled m' e' ≤ scaled m e := by
  by_contra hlt
  rw [not_le] at hlt
  have hsame : |scaled m' e' - q| = |scaled m e - q| :=
    le_antisymm (h'.near _ _ h.form) (h.near _ _ h'.form)
  have heven : m % 2 = 0 := (h.even _ _ h'.form hsame).resolve_left hlt.ne'
  have heven' : m' % 2 = 0 := (h'.even _ _ h.form hsame.symm).resolve_left hlt.ne
  have hform := h.form
  have hsucc : Canonical (m + 1) e := by
    have hlt := hform.lt
    exact ⟨by omega, hform.le, hform.normal.imp_right fun hlower => by omega⟩
  have hle : e ≤ e' := by
    by_contra hexp
    exact absurd hlt (scaled_lt_of_lt h'.form hform (not_le.mp hexp)).not_gt
  have hhalf : scaled m' e' - q = q - scaled m e := by
    rcases abs_eq_abs.mp hsame with heq | hopposite
    · linarith
    · linarith
  have hupper := h.le_scaled_succ hsucc hhalf
  have hmultiple : scaled m' e' = (m' * 2 ^ (e' - e).toNat : ℕ) * 2 ^ e := by
    rw [scaled, Nat.cast_mul, Nat.cast_pow, Nat.cast_ofNat, mul_assoc, ← zpow_natCast,
      ← zpow_add₀ two_ne_zero]
    congr 2
    omega
  have hpos : (0 : ℚ) < 2 ^ e := zpow_pos two_pos e
  rw [hmultiple, scaled, mul_le_mul_iff_left₀ hpos, Nat.cast_le] at hupper
  rw [hmultiple, scaled, mul_lt_mul_iff_left₀ hpos, Nat.cast_lt] at hlt
  have hparity : m' * 2 ^ (e' - e).toNat % 2 = 0 := by
    rw [Nat.mul_mod, heven', Nat.zero_mul, Nat.zero_mod]
  omega

/-- Only one form is nearest to a quotient. -/
theorem Nearest.unique {m' : ℕ} {e' : ℤ} (h : Nearest q m e) (h' : Nearest q m' e') : m = m' ∧ e = e' :=
  h.form.eq_of_scaled_eq h'.form (le_antisymm (h'.scaled_le h) (h.scaled_le h'))

end TelemetryAutomation.Decimal
