import TelemetryAutomation.Proofs.Decimal.Literal

/-!
# Numbers as doubles

A number of either sign is rounded to the nearest double, `Rounded`. The double is finite as long as the number
is not too large, zero if the number is small enough, and never no number at all. Up to the sign of zero there
is only one, so comparisons with it are about the number.
-/

namespace TelemetryAutomation.Decimal

open Float.Model
open Float.Model.UnpackedFloat

/-- A number with a sign and a magnitude. -/
def signed : Sign → ℚ → ℚ
  | .positive, a => a
  | .negative, a => -a

/-- A number is rounded to a double, whose sign is free if the number is zero. -/
def Rounded (q : ℚ) (x : Float) : Prop :=
  ∃ s a, StandsFor x.toModel.unpack s a ∧ q = signed s a

variable {q a : ℚ} {x y : Float} {s : Sign} {u v : UnpackedFloat}

/-! ## What stands for a magnitude -/

theorem StandsFor.nonneg (h : StandsFor u s a) : 0 ≤ a := by
  obtain ⟨m, e, hnearest, -⟩ := h
  exact hnearest.nonneg

/-- Only one double with a sign stands for a magnitude. -/
theorem StandsFor.unique (hu : StandsFor u s a) (hv : StandsFor v s a) : u = v := by
  obtain ⟨m, e, hnearest, rfl⟩ := hu
  obtain ⟨m', e', hnearest', rfl⟩ := hv
  obtain ⟨rfl, rfl⟩ := hnearest.unique hnearest'
  rfl

/-- Between both ends of the doubles a finite one that is not zero stands for a magnitude. -/
theorem StandsFor.finite (h : StandsFor u s a) (hlower : underflow < a) (hupper : a < overflow) :
    ∃ m e hm, u = .finite s m e hm := by
  obtain ⟨m, e, hnearest, rfl⟩ := h
  have hm : m ≠ 0 := fun hzero => absurd (hnearest.eq_zero_iff.mp hzero) (not_le.mpr hlower)
  have he : e ≤ maxExponent :=
    not_lt.mp fun hlarge => absurd (hnearest.maxExponent_lt_iff.mp hlarge) (not_le.mpr hupper)
  exact ⟨m, e, Nat.pos_of_ne_zero hm, by rw [double, if_pos he, unbounded, dif_neg hm]⟩

/-- A double stands for a magnitude as an infinity, a finite number or zero. -/
theorem StandsFor.cases (h : StandsFor u s a) :
    overflow ≤ a ∧ u = .infinity s ∨ a ≤ underflow ∧ u = .zero s ∨
      (underflow < a ∧ a < overflow) ∧ ∃ m e hm, u = .finite s m e hm := by
  rcases le_or_gt overflow a with hlarge | hupper
  · exact .inl ⟨hlarge, h.infinity hlarge⟩
  · rcases le_or_gt a underflow with hsmall | hlower
    · exact .inr (.inl ⟨hsmall, h.zero hsmall⟩)
    · exact .inr (.inr ⟨⟨hlower, hupper⟩, h.finite hlower hupper⟩)

theorem neg_double (s : Sign) (form : ℕ × ℤ) : (double s form).neg = double (-s) form := by
  unfold double unbounded
  split_ifs <;> rfl

theorem unpack_pack_double (s : Sign) {m : ℕ} {e : ℤ} (hform : Canonical m e) :
    (Float.Model.pack (double s (m, e))).unpack = double s (m, e) := by
  by_cases he : e ≤ maxExponent
  · have heq : double s (m, e) = unbounded s (m, e) := if_pos he
    rw [heq, unpack_pack_unbounded s hform, heq]
  · have heq : double s (m, e) = .infinity s := if_neg he
    rw [heq]
    exact unpack_packedInfinity s

/-- The opposite double stands for the same magnitude with the other sign. -/
theorem StandsFor.neg (h : StandsFor x.toModel.unpack s a) : StandsFor (-x).toModel.unpack (-s) a := by
  obtain ⟨m, e, hnearest, heq⟩ := h
  refine ⟨m, e, hnearest, ?_⟩
  show (Float.Model.pack x.toModel.unpack.neg).unpack = _
  rw [heq, neg_double, unpack_pack_double _ hnearest.form]

/-! ## Rounding -/

theorem signed_neg (s : Sign) (a : ℚ) : signed (-s) a = -signed s a := by
  cases s
  · exact (neg_neg a).symm
  · rfl

theorem abs_signed (s : Sign) (ha : 0 ≤ a) : |signed s a| = a := by
  cases s
  · exact (abs_neg a).trans (abs_of_nonneg ha)
  · exact abs_of_nonneg ha

theorem StandsFor.rounded (h : StandsFor x.toModel.unpack .positive a) : Rounded a x := ⟨.positive, a, h, rfl⟩

namespace Rounded

theorem neg (h : Rounded q x) : Rounded (-q) (-x) := by
  obtain ⟨s, a, hstands, rfl⟩ := h
  exact ⟨-s, a, hstands.neg, (signed_neg s a).symm⟩

/-- The double is finite unless the number is too large. -/
theorem isFinite_iff (h : Rounded q x) : x.isFinite ↔ |q| < overflow := by
  obtain ⟨s, a, hstands, rfl⟩ := h
  rw [abs_signed s hstands.nonneg]
  show x.toModel.unpack.isFinite ↔ _
  rcases hstands.cases with ⟨hlarge, heq⟩ | ⟨hsmall, heq⟩ | ⟨⟨-, hupper⟩, m, e, hm, heq⟩
  · rw [heq]
    exact iff_of_false Bool.false_ne_true (not_lt.mpr hlarge)
  · rw [heq]
    exact iff_of_true rfl (hsmall.trans_lt underflow_lt_overflow)
  · rw [heq]
    exact iff_of_true rfl hupper

/-- A number that is too large makes an infinity. -/
theorem unpack_eq_infinity (h : Rounded q x) (hq : overflow ≤ q) : x.toModel.unpack = .infinity .positive := by
  obtain ⟨s, a, hstands, rfl⟩ := h
  have hpos : 0 < overflow := underflow_pos.trans underflow_lt_overflow
  cases s with
  | positive => exact hstands.infinity hq
  | negative =>
    have hnonneg := hstands.nonneg
    rw [signed] at hq
    linarith

/-- The double is zero if the number is at most half of the smallest positive one. -/
theorem beq_zero_iff (h : Rounded q x) : x == 0 ↔ |q| ≤ underflow := by
  obtain ⟨s, a, hstands, rfl⟩ := h
  rw [abs_signed s hstands.nonneg]
  show x.toModel.unpack.beq (0 : Float).toModel.unpack ↔ _
  have hzero : (0 : Float).toModel.unpack = .zero .positive := by
    have hnone : StandsFor (0 : Float).toModel.unpack .positive _ := ofScientific_standsFor 0 false 0
    refine hnone.zero ?_
    rw [Nat.cast_zero, zero_mul]
    exact underflow_pos.le
  rw [hzero]
  rcases hstands.cases with ⟨hlarge, heq⟩ | ⟨hsmall, heq⟩ | ⟨⟨hlower, -⟩, m, e, hm, heq⟩
  · rw [heq]
    refine iff_of_false ?_ (not_le.mpr (underflow_lt_overflow.trans_le hlarge))
    cases s <;> exact Bool.false_ne_true
  · rw [heq]
    exact iff_of_true rfl hsmall
  · rw [heq]
    refine iff_of_false ?_ (not_le.mpr hlower)
    cases s <;> exact Bool.false_ne_true

theorem isNaN_eq_false (h : Rounded q x) : x.isNaN = false := by
  obtain ⟨s, a, hstands, -⟩ := h
  show x.toModel.unpack.isNaN = false
  rcases hstands.cases with ⟨-, heq⟩ | ⟨-, heq⟩ | ⟨-, m, e, hm, heq⟩
  all_goals rw [heq]; rfl

/-- Two doubles to which a number is rounded hold the same, or both are zero. -/
theorem unpack_eq_or (hx : Rounded q x) (hy : Rounded q y) :
    x.toModel.unpack = y.toModel.unpack ∨
      ∃ s t, x.toModel.unpack = .zero s ∧ y.toModel.unpack = .zero t := by
  obtain ⟨s, a, hstands, rfl⟩ := hx
  obtain ⟨t, b, hstands', heq⟩ := hy
  obtain rfl : a = b := by
    rw [← abs_signed s hstands.nonneg, heq, abs_signed t hstands'.nonneg]
  have hnonneg := hstands.nonneg
  have hunit := underflow_pos
  rcases hnonneg.eq_or_lt with rfl | hpos
  · exact .inr ⟨s, t, hstands.zero hunit.le, hstands'.zero hunit.le⟩
  · obtain rfl : s = t := by
      cases s <;> cases t <;> unfold signed at heq
      · rfl
      · linarith
      · linarith
      · rfl
    exact .inl (hstands.unique hstands')

end Rounded

/-! ## The double of an integer -/

theorem rounded_ofNat (n : ℕ) : Rounded n (Float.ofNat n) := by
  have hstands := ofScientific_standsFor n false 0
  rw [if_neg Bool.false_ne_true, Nat.cast_zero, zpow_zero, mul_one] at hstands
  exact hstands.rounded

/-- An integer is converted to the nearest double. -/
theorem rounded_ofInt (n : ℤ) : Rounded n (Float.ofInt n) := by
  cases n with
  | ofNat n => exact rounded_ofNat n
  | negSucc n =>
    rw [Int.cast_negSucc]
    exact (rounded_ofNat (n + 1)).neg

/-! ## The value of a double -/

/-- The value of an unpacked double; one that is not finite has none and counts as zero. -/
def unpackedValue : UnpackedFloat → ℚ
  | .finite s m e _ => signed s (scaled m e)
  | _ => 0

/-- The value of a finite double. -/
def value (x : Float) : ℚ := unpackedValue x.toModel.unpack

theorem nearest_self {m : ℕ} {e : ℤ} (hform : Canonical m e) : Nearest (scaled m e) m e where
  nonneg := by
    unfold scaled
    positivity
  form := hform
  near m' e' _ := by
    rw [sub_self, abs_zero]
    exact abs_nonneg _
  even m' e' _ hsame := by
    rw [sub_self, abs_zero, abs_eq_zero] at hsame
    exact .inl (sub_eq_zero.mp hsame)

/-- The value of a finite double is rounded to it. -/
theorem rounded_value (h : x.isFinite) : Rounded (value x) x := by
  have hunpacked : Unpacked x.toModel.unpack := unpacked_unpack _
  replace h : x.toModel.unpack.isFinite := h
  unfold Rounded value
  generalize x.toModel.unpack = u at hunpacked h
  cases hunpacked with
  | nan => cases h
  | infinity s => cases h
  | zero s =>
    refine ⟨s, 0, ⟨0, -1074, nearest_zero, rfl⟩, ?_⟩
    cases s
    · exact neg_zero.symm
    · rfl
  | @finite s m e hm hform he =>
    refine ⟨s, scaled m e, ⟨m, e, nearest_self hform, ?_⟩, rfl⟩
    rw [double, if_pos he, unbounded, dif_neg hm.ne']

/-- A double that is not zero is larger than what is rounded to zero. -/
theorem value_eq_zero (h : |value x| ≤ underflow) : value x = 0 := by
  have hunpacked : Unpacked x.toModel.unpack := unpacked_unpack _
  unfold value at h ⊢
  generalize x.toModel.unpack = u at hunpacked h
  cases hunpacked with
  | @finite s m e hm hform he =>
    have hone : (1 : ℚ) ≤ m := by exact_mod_cast hm
    have hlower := le_scaled hform
    have hunit := underflow_pos
    have habs : scaled m e ≤ underflow := by
      rwa [unpackedValue, abs_signed s (nearest_self hform).nonneg] at h
    have hdouble : 2 * underflow ≤ m * (2 * underflow) := le_mul_of_one_le_left (by linarith) hone
    linarith
  | _ => rfl

/-! ## Comparisons -/

theorem compare_swap (u v : UnpackedFloat) : (u.compare v).map Ordering.swap = v.compare u := by
  have hforms (m m' : ℕ) (e e' : ℤ) :
      ((compare e e').then (compare m m')).swap = (compare e' e).then (compare m' m) := by
    rw [Ordering.swap_then, ← Std.OrientedOrd.eq_swap, ← Std.OrientedOrd.eq_swap]
  cases u with
  | infinity s => cases v with
    | infinity t => cases s <;> cases t <;> rfl
    | _ => cases s <;> rfl
  | notANumber => cases v <;> rfl
  | zero s => cases v with
    | zero t => rfl
    | notANumber => rfl
    | infinity t => cases t <;> rfl
    | finite t => cases t <;> rfl
  | finite s m e hm => cases v with
    | zero t => cases s <;> rfl
    | notANumber => rfl
    | infinity t => cases s <;> cases t <;> rfl
    | finite t m' e' hm' =>
      cases s <;> cases t
      · exact congrArg some (congrArg Ordering.swap (hforms m m' e e'))
      · rfl
      · rfl
      · exact congrArg some (hforms m m' e e')

theorem isSome_compare (hu : u.isNaN = false) (hv : v.isNaN = false) : (u.compare v).isSome := by
  cases u with
  | notANumber => cases hu
  | infinity s => cases v with
    | notANumber => cases hv
    | _ => cases s <;> rfl
  | zero s => cases v with
    | notANumber => cases hv
    | zero t => rfl
    | infinity t => cases t <;> rfl
    | finite t => cases t <;> rfl
  | finite s => cases v with
    | notANumber => cases hv
    | zero t => cases s <;> rfl
    | infinity t => cases s <;> cases t <;> rfl
    | finite t => cases s <;> cases t <;> rfl

theorem isNaN_of_isFinite (h : x.isFinite) : x.isNaN = false := by
  replace h : x.toModel.unpack.isFinite := h
  show x.toModel.unpack.isNaN = false
  generalize x.toModel.unpack = u at h
  cases u with
  | notANumber => cases h
  | _ => rfl

theorem lt_iff : x < y ↔ x.toModel.unpack.compare y.toModel.unpack = some .lt := by
  show decide (x.toModel.unpack.lt y.toModel.unpack = true) = true ↔ _
  rw [decide_eq_true_eq]
  exact beq_iff_eq

theorem le_iff : x ≤ y ↔ (x.toModel.unpack.compare y.toModel.unpack).any Ordering.isLE := by
  show decide (x.toModel.unpack.le y.toModel.unpack = true) = true ↔ _
  rw [decide_eq_true_eq]
  rfl

/-- Of two doubles that are numbers, one that is not below the other is at least as large. -/
theorem not_lt_iff (hx : x.isNaN = false) (hy : y.isNaN = false) : ¬ x < y ↔ y ≤ x := by
  obtain ⟨o, ho⟩ := Option.isSome_iff_exists.mp (isSome_compare hx hy)
  rw [lt_iff, le_iff, ← compare_swap x.toModel.unpack, ho]
  cases o <;> simp

/-- Nothing finite is at least as large as a number that is too large. -/
theorem Rounded.not_le (h : Rounded q x) (hq : overflow ≤ q) (hy : y.isFinite) : ¬ x ≤ y := by
  replace hy : y.toModel.unpack.isFinite := hy
  rw [le_iff, h.unpack_eq_infinity hq]
  generalize y.toModel.unpack = v at hy
  cases v with
  | infinity => cases hy
  | notANumber => cases hy
  | _ => exact Bool.false_ne_true

/-- All zeros compare alike. -/
theorem compare_zero (u : UnpackedFloat) (s t : Sign) : u.compare (.zero s) = u.compare (.zero t) := by
  cases u with
  | infinity sign => cases sign <;> rfl
  | finite sign => cases sign <;> rfl
  | _ => rfl

/-- Doubles to which one number is rounded compare alike. -/
theorem Rounded.compare_eq (hx : Rounded q x) (hy : Rounded q y) (u : UnpackedFloat) :
    u.compare x.toModel.unpack = u.compare y.toModel.unpack := by
  rcases hx.unpack_eq_or hy with heq | ⟨s, t, heq, heq'⟩
  · rw [heq]
  · rw [heq, heq', compare_zero]

theorem Rounded.le_iff_le (hx : Rounded q x) (hy : Rounded q y) (bound : Float) : bound ≤ x ↔ bound ≤ y := by
  rw [le_iff, le_iff, hx.compare_eq hy]

theorem Rounded.ge_iff_ge (hx : Rounded q x) (hy : Rounded q y) (bound : Float) : x ≤ bound ↔ y ≤ bound := by
  rw [le_iff, le_iff, ← compare_swap, hx.compare_eq hy, compare_swap]

end TelemetryAutomation.Decimal
