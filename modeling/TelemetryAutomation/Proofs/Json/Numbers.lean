import TelemetryAutomation.Json.Scalar
import TelemetryAutomation.Proofs.Decimal.Grammar

/-!
# Numbers in values

A value denotes a number if it is one, or if it is a text that writes one between blanks. The number that is
read off a value is the double to which the denoted number is rounded; a number that is too large is not read.
-/

namespace TelemetryAutomation

open Decimal (Rounded Writes underflow overflow)

variable {q : ℚ} {x : Float}

/-- The exact value of a number. -/
def Number.value : Number → ℚ
  | .int n _ => n
  | .float x _ => Decimal.value x

theorem Number.rounded_toFloat (n : Number) : Rounded n.value n.toFloat := by
  cases n with
  | int n _ => exact Decimal.rounded_ofInt n
  | float x hfinite => exact Decimal.rounded_value hfinite

/-- No number is so small that it would be rounded to zero. -/
theorem Number.abs_value_le_underflow_iff (n : Number) : |n.value| ≤ underflow ↔ n.value = 0 := by
  refine ⟨fun hsmall => ?_, fun hzero => ?_⟩
  · cases n with
    | int n _ =>
      have hlt : |(n : ℚ)| < 1 := hsmall.trans_lt Decimal.underflow_lt_one
      have hzero : n = 0 := Int.abs_lt_one_iff.mp (by exact_mod_cast hlt)
      show (n : ℚ) = 0
      exact_mod_cast hzero
    | float x _ => exact Decimal.value_eq_zero hsmall
  · rw [hzero, abs_zero]
    exact Decimal.underflow_pos.le

/-- Numbers of both kinds are finite as doubles. -/
theorem Number.isFinite_toFloat (n : Number) : n.toFloat.isFinite := by
  cases n with
  | int n hrange =>
    have habs : |n| < 2 ^ 64 := abs_lt.mpr ⟨by omega, by omega⟩
    have hlt : |(n : ℚ)| < 2 ^ 64 := by exact_mod_cast habs
    exact (Decimal.rounded_ofInt n).isFinite_iff.mpr (hlt.trans Decimal.two_pow_lt_overflow)
  | float x hfinite => exact hfinite

namespace Json

/-- The number that a value denotes. -/
inductive Denotes : Json → ℚ → Prop
  | num (n : Number) : Denotes (.num n) n.value
  | str {s : String} {q : ℚ} (h : Writes (Text.trim s.toList) q) : Denotes (.str s) q

theorem denotes_str {s : String} : (Json.str s).Denotes q ↔ Writes (Text.trim s.toList) q := by
  refine ⟨fun h => ?_, .str⟩
  cases h with
  | str hwrites => exact hwrites

variable {value : Json}

/-- A denoted number is read off a value if it is not too large. -/
theorem number?_of_denotes (h : value.Denotes q) :
    ∃ x, Rounded q x ∧ value.number? = if x.isFinite then some x else none := by
  cases h with
  | num n =>
    refine ⟨n.toFloat, n.rounded_toFloat, ?_⟩
    rw [if_pos n.isFinite_toFloat]
    rfl
  | @str s _ h =>
    obtain ⟨x, hread, hrounded⟩ := Decimal.read?_of_writes h
    refine ⟨x, hrounded, ?_⟩
    show numericText? s = _
    rw [numericText?, hread]
    rfl

/-- What is read off a value is the double of a denoted number. -/
theorem denotes_of_number? (h : value.number? = some x) : ∃ q, value.Denotes q ∧ Rounded q x ∧ x.isFinite := by
  cases value with
  | num n =>
    obtain rfl := Option.some.inj h
    exact ⟨n.value, .num n, n.rounded_toFloat, n.isFinite_toFloat⟩
  | str s =>
    obtain ⟨hread, hfinite⟩ := Option.filter_eq_some_iff.mp h
    obtain ⟨q, hwrites, hrounded⟩ := Decimal.writes_of_read? hread hfinite
    exact ⟨q, .str hwrites, hrounded, hfinite⟩
  | _ => cases h

end Json

end TelemetryAutomation
