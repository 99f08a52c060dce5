import TelemetryAutomation.Proofs.Condition.Truth
import TelemetryAutomation.Proofs.Decimal.Order

/-!
# Values against thresholds

A threshold is a finite double. A value that holds a number is compared with it by the values of both doubles.
Where there is no value at all, it is below every threshold, because its text is empty and that of the threshold
is not, and it is equal to a threshold of zero.
-/

namespace TelemetryAutomation

/-! ## Texts of numbers -/

namespace Decimal

theorem plainText_ne_nil (marksWhole : Bool) {digits : List Char} (h : digits ≠ []) (place : ℤ) :
    plainText marksWhole digits place ≠ [] := by
  unfold plainText
  split
  · simp [h]
  · dsimp only
    split <;> simp

theorem exponentText_ne_nil (digits : List Char) (first : ℤ) : exponentText digits first ≠ [] := by
  simp [exponentText]

theorem Layout.text_ne_empty (layout : Layout) (x : Float) : layout.text x ≠ "" := by
  have hbody (digits : ℕ) (place first : ℤ) :
      (if layout.isPlain first then plainText layout.marksWhole (Nat.toDigits 10 digits) place
        else exponentText (Nat.toDigits 10 digits) first) ≠ [] := by
    split
    · exact plainText_ne_nil _ Nat.toDigits_ne_nil _
    · exact exponentText_ne_nil _ _
  have hsign {body : List Char} (h : body ≠ []) :
      String.ofList (if isNegative x then '-' :: body else body) ≠ "" := by
    split <;> simp [h]
  exact hsign (hbody _ _ _)

end Decimal

namespace Json

variable {value left right : Json} {x y threshold : Float}

/-! ## Values that hold numbers -/

theorem isFinite_of_number? (h : value.number? = some x) : x.isFinite := by
  obtain ⟨_, _, _, hfinite⟩ := denotes_of_number? h
  exact hfinite

theorem ofFloat_of_isFinite (h : threshold.isFinite) : ofFloat threshold = .num (.float threshold h) :=
  dif_pos h

theorem compareNumbers_eq (hx : x.isFinite) (hy : y.isFinite) :
    compareNumbers x y = compare (Decimal.value x) (Decimal.value y) := by
  simp only [compareNumbers, Decimal.lt_iff_value hx hy, Decimal.lt_iff_value hy hx]
  rcases lt_trichotomy (Decimal.value x) (Decimal.value y) with hlt | heq | hgt
  · rw [if_pos hlt, compare_lt_iff_lt.mpr hlt]
  · rw [if_neg heq.not_lt, if_neg heq.not_gt, compare_eq_iff_eq.mpr heq]
  · rw [if_neg hgt.not_gt, if_pos hgt, compare_gt_iff_gt.mpr hgt]

/-- Values that hold numbers are ordered as these. -/
theorem order_of_number? (hleft : left.number? = some x) (hright : right.number? = some y) :
    left.order right = compare (Decimal.value x) (Decimal.value y) := by
  rw [order, hleft, hright]
  exact compareNumbers_eq (isFinite_of_number? hleft) (isFinite_of_number? hright)

/-- A value that holds a number is ordered against a threshold as the number. -/
theorem order_ofFloat (h : value.number? = some x) (hthreshold : threshold.isFinite) :
    value.order (ofFloat threshold) = compare (Decimal.value x) (Decimal.value threshold) := by
  rw [ofFloat_of_isFinite hthreshold]
  exact order_of_number? h rfl

/-- Values that hold numbers are equal if the numbers are. -/
theorem looseEq_of_number? (hleft : left.number? = some x) (hright : right.number? = some y) :
    left.looseEq right ↔ Decimal.value x = Decimal.value y := by
  rw [← Decimal.beq_iff_value (isFinite_of_number? hleft) (isFinite_of_number? hright)]
  cases left with
  | num m =>
    obtain rfl := Option.some.inj hleft
    cases right with
    | num n =>
      obtain rfl := Option.some.inj hright
      exact Iff.rfl
    | str t =>
      have hread : numericText? t = some y := hright
      rw [looseEq, hread]
    | _ => cases hright
  | str s =>
    have hread : numericText? s = some x := hleft
    cases right with
    | num n =>
      obtain rfl := Option.some.inj hright
      rw [looseEq, hread]
    | str t =>
      have hread' : numericText? t = some y := hright
      rw [looseEq, hread, hread']
    | _ => cases hright
  | _ => cases hleft

/-- A value that holds a number is equal to a threshold if the number is. -/
theorem looseEq_ofFloat (h : value.number? = some x) (hthreshold : threshold.isFinite) :
    value.looseEq (ofFloat threshold) ↔ Decimal.value x = Decimal.value threshold := by
  rw [ofFloat_of_isFinite hthreshold]
  exact looseEq_of_number? h rfl

/-! ## Missing values -/

theorem scalarText_ofFloat_ne_empty (h : threshold.isFinite) : (ofFloat threshold).scalarText ≠ "" := by
  rw [ofFloat_of_isFinite h]
  show (if _ then Decimal.Layout.text _ threshold else Decimal.Layout.text Number.layout threshold) ≠ ""
  split <;> exact Decimal.Layout.text_ne_empty _ _

theorem order_null (h : threshold.isFinite) : order .null (ofFloat threshold) = .lt := by
  have hne : (ofFloat threshold).scalarText.toList ≠ [] := by simpa using scalarText_ofFloat_ne_empty h
  obtain ⟨c, rest, hcons⟩ := List.exists_cons_of_ne_nil hne
  have hlt : "" < (ofFloat threshold).scalarText := by
    rw [String.lt_iff_toList_lt, hcons]
    exact List.nil_lt_cons c rest
  exact if_pos hlt

theorem looseEq_null (h : threshold.isFinite) :
    looseEq .null (ofFloat threshold) ↔ Decimal.value threshold = 0 := by
  have hset : looseEq .null (ofFloat threshold) = !(threshold != 0) := by
    rw [ofFloat_of_isFinite h]
    rfl
  rw [hset, Bool.not_eq_true', bne_zero_eq_false_iff (Decimal.rounded_value h)]
  refine ⟨Decimal.value_eq_zero, fun hzero => ?_⟩
  rw [hzero, abs_zero]
  exact Decimal.underflow_pos.le

end Json

end TelemetryAutomation
