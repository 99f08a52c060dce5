import TelemetryAutomation.Proofs.Decimal.Rounded

/-!
# Doubles are ordered as their values

Finite doubles are compared by sign, exponent and mantissa. They are kept in canonical form, so this is the order
of their values: to compare two doubles is to compare two rational numbers (`compare_unpack`).
-/

namespace TelemetryAutomation.Decimal

open Float.Model
open Float.Model.UnpackedFloat

variable {m m' : ℕ} {e e' : ℤ} {u v : UnpackedFloat} {x y : Float}

theorem scaled_pos (hm : 0 < m) (e : ℤ) : 0 < scaled m e := by
  unfold scaled
  positivity

/-- With the same exponent the mantissas decide. -/
theorem compare_scaled_same (m m' : ℕ) (e : ℤ) : compare (scaled m e) (scaled m' e) = compare m m' := by
  have hpos : (0 : ℚ) < 2 ^ e := zpow_pos two_pos e
  have hmono : StrictMono fun m : ℕ => scaled m e := by
    intro m m' hlt
    show (m : ℚ) * 2 ^ e < m' * 2 ^ e
    gcongr
  rw [← cmp_eq_compare, ← cmp_eq_compare, hmono.cmp_map_eq]

/-- Of canonical forms the exponent counts before the mantissa. -/
theorem compare_scaled (hform : Canonical m e) (hform' : Canonical m' e') :
    (compare e e').then (compare m m') = compare (scaled m e) (scaled m' e') := by
  rcases lt_trichotomy e e' with hlt | rfl | hgt
  · rw [compare_lt_iff_lt.mpr hlt, compare_lt_iff_lt.mpr (scaled_lt_of_lt hform hform' hlt)]
    rfl
  · rw [compare_eq_iff_eq.mpr (rfl : e = e), Ordering.eq_then, compare_scaled_same]
  · rw [compare_gt_iff_gt.mpr hgt, compare_gt_iff_gt.mpr (scaled_lt_of_lt hform' hform hgt)]
    rfl

theorem compare_neg_neg (q r : ℚ) : compare (-q) (-r) = (compare q r).swap := by
  have hanti : StrictAnti fun q : ℚ => -q := fun _ _ => neg_lt_neg
  rw [← Std.OrientedOrd.eq_swap, ← cmp_eq_compare, ← cmp_eq_compare, hanti.cmp_map_eq]

theorem compare_unpackedValue (hu : Unpacked u) (hv : Unpacked v) (hu' : u.isFinite) (hv' : v.isFinite) :
    u.compare v = some (compare (unpackedValue u) (unpackedValue v)) := by
  cases hu with
  | nan => cases hu'
  | infinity => cases hu'
  | zero s => cases hv with
    | nan => cases hv'
    | infinity => cases hv'
    | zero t => exact congrArg some (compare_eq_iff_eq.mpr rfl).symm
    | @finite t m e hm =>
      have hpos := scaled_pos hm e
      cases t
      · exact congrArg some (compare_gt_iff_gt.mpr (neg_neg_of_pos hpos)).symm
      · exact congrArg some (compare_lt_iff_lt.mpr hpos).symm
  | @finite s m e hm hform => cases hv with
    | nan => cases hv'
    | infinity => cases hv'
    | zero t =>
      have hpos := scaled_pos hm e
      cases s
      · exact congrArg some (compare_lt_iff_lt.mpr (neg_neg_of_pos hpos)).symm
      · exact congrArg some (compare_gt_iff_gt.mpr hpos).symm
    | @finite t m' e' hm' hform' =>
      have hpos := scaled_pos hm e
      have hpos' := scaled_pos hm' e'
      -- signs decide unless they agree; of negative numbers the larger has the smaller magnitude
      cases s <;> cases t
      · refine congrArg some ?_
        exact (congrArg Ordering.swap (compare_scaled hform hform')).trans (compare_neg_neg _ _).symm
      · exact congrArg some (compare_lt_iff_lt.mpr ((neg_neg_of_pos hpos).trans hpos')).symm
      · exact congrArg some (compare_gt_iff_gt.mpr ((neg_neg_of_pos hpos').trans hpos)).symm
      · exact congrArg some (compare_scaled hform hform')

/-- **Finite doubles compare as their values.** -/
theorem compare_unpack (hx : x.isFinite) (hy : y.isFinite) :
    x.toModel.unpack.compare y.toModel.unpack = some (compare (value x) (value y)) :=
  compare_unpackedValue (unpacked_unpack _) (unpacked_unpack _) hx hy

theorem lt_iff_value (hx : x.isFinite) (hy : y.isFinite) : x < y ↔ value x < value y := by
  rw [lt_iff, compare_unpack hx hy, Option.some.injEq, compare_lt_iff_lt]

theorem beq_iff_value (hx : x.isFinite) (hy : y.isFinite) : x == y ↔ value x = value y := by
  show (x.toModel.unpack.compare y.toModel.unpack == some .eq) = true ↔ _
  rw [compare_unpack hx hy, beq_iff_eq, Option.some.injEq, compare_eq_iff_eq]

end TelemetryAutomation.Decimal
