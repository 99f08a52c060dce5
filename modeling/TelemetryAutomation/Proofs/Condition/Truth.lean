import TelemetryAutomation.Condition.Comparison
import TelemetryAutomation.Proofs.Json.Numbers
import TelemetryAutomation.Proofs.SortedMap
import TelemetryAutomation.Proofs.Text.Lowercase

/-!
# What is false

The outcome of a condition is false if it is `null`, `false`, zero, empty, one of four words, or a text that
writes a number too small for a double. Everything else is true.
-/

namespace TelemetryAutomation

open Decimal (Rounded Writes underflow)

namespace Decimal

theorem start_toLower {c : Char} (h : Text.isDigit c ∨ c ∈ ['.', '+', '-']) : c.toNat < 128 ∧ c.toLower = c := by
  rcases h with hdigit | hmark
  · refine ⟨Text.lt_of_isPlainAlphanumeric ?_, toLower_of_start (.inl hdigit)⟩
    rw [Text.isPlainAlphanumeric, hdigit]
    rfl
  · simp only [List.mem_cons, List.not_mem_nil, or_false] at hmark
    rcases hmark with rfl | rfl | rfl <;> decide

end Decimal

namespace Json

/-- Of the words that are false only zero is a decimal. -/
theorem eq_zero_of_falseWords {s : String} {q : ℚ} (hwrites : Writes (Text.trim s.toList) q)
    (h : isOneOf falseWords s) : Text.trim s.toList = ['0'] := by
  obtain ⟨c, rest, htrim, hstart⟩ := hwrites.head
  obtain ⟨hascii, hsame⟩ := Decimal.start_toLower hstart
  have hlower : (Text.lowercase (Text.trimmed s)).toList = c :: Text.lowerAfter [c] rest := by
    rw [Text.lowercase, Text.trimmed, String.toList_ofList, String.toList_ofList, htrim, Text.lower,
      Text.lowerAfter_cons hascii, hsame]
  have hmem : Text.lowercase (Text.trimmed s) ∈ falseWords := of_decide_eq_true h
  have hwords : falseWords.map String.toList = [[], ['0'], ['f', 'a', 'l', 's', 'e'], ['o', 'f', 'f']] := rfl
  have hletters : (Text.lowercase (Text.trimmed s)).toList ∈ falseWords.map String.toList :=
    List.mem_map_of_mem hmem
  rw [hwords, hlower] at hletters
  simp only [List.mem_cons, List.cons.injEq, reduceCtorEq, false_or, List.not_mem_nil, or_false] at hletters
  rw [htrim]
  rcases hletters with ⟨rfl, hrest⟩ | ⟨rfl, -⟩ | ⟨rfl, -⟩
  · rw [Text.lowerAfter_eq_nil hrest]
  · exact absurd hstart (by decide)
  · exact absurd hstart (by decide)

/-- The values that are false as outcome of a condition. -/
def CountsAsFalse : Json → Prop
  | .null => True
  | .bool b => b = false
  | .num n => n.value = 0
  | .str s => isOneOf falseWords s ∨ ∃ q, Writes (Text.trim s.toList) q ∧ |q| ≤ underflow
  | .arr items => items = []
  | .obj fields => fields = ∅

theorem holds_num (n : Number) : (Json.num n).holds = (n.toFloat != 0) := rfl

/-- A text that holds a number is judged by the number. -/
theorem holds_of_numericText? {s : String} {x : Float} (h : numericText? s = some x) :
    (Json.str s).holds = (x != 0) := by
  have hnumber : (Json.str s).number? = some x := h
  unfold holds
  rw [hnumber]

/-- Any other text is judged by its word. -/
theorem holds_of_numericText?_eq_none {s : String} (h : numericText? s = none) :
    (Json.str s).holds = !isOneOf falseWords s := by
  have hnumber : (Json.str s).number? = none := h
  unfold holds
  rw [hnumber]

theorem bne_zero_eq_false_iff {q : ℚ} {x : Float} (h : Rounded q x) : (x != 0) = false ↔ |q| ≤ underflow := by
  rw [← h.beq_zero_iff, bne, Bool.not_eq_false']

/-- A text is false for its word or for the number that it writes. -/
theorem holds_str_eq_false_iff (s : String) :
    (Json.str s).holds = false ↔
      isOneOf falseWords s ∨ ∃ q, Writes (Text.trim s.toList) q ∧ |q| ≤ underflow := by
  cases hnumber : numericText? s with
  | some x =>
    have hvalue : (Json.str s).number? = some x := hnumber
    obtain ⟨q, hdenotes, hrounded, -⟩ := denotes_of_number? hvalue
    have hwrites := denotes_str.mp hdenotes
    rw [holds_of_numericText? hnumber, bne_zero_eq_false_iff hrounded]
    constructor
    · intro hsmall
      exact .inr ⟨q, hwrites, hsmall⟩
    · rintro (hword | ⟨r, hwrites', hsmall⟩)
      · rw [eq_zero_of_falseWords hwrites hword] at hwrites
        rw [hwrites.unique Decimal.writes_zero, abs_zero]
        exact Decimal.underflow_pos.le
      · rwa [hwrites.unique hwrites']
  | none =>
    rw [holds_of_numericText?_eq_none hnumber, Bool.not_eq_false']
    refine ⟨.inl, ?_⟩
    rintro (hword | ⟨q, hwrites, hsmall⟩)
    · exact hword
    · -- a number that is rounded to zero would have been read
      obtain ⟨x, hrounded, hread⟩ := number?_of_denotes (.str hwrites)
      have hfinite := hrounded.isFinite_iff.mpr (hsmall.trans_lt Decimal.underflow_lt_overflow)
      rw [if_pos hfinite] at hread
      cases hnumber.symm.trans hread

/-- **What is false.** A number is false if it is zero, a text if it is one of four words or writes a number that
is rounded to zero, and everything else if it is empty. -/
theorem holds_eq_false_iff (value : Json) : value.holds = false ↔ value.CountsAsFalse := by
  cases value with
  | null => exact iff_of_true rfl trivial
  | bool b => exact Iff.rfl
  | num n =>
    rw [holds_num, bne_zero_eq_false_iff n.rounded_toFloat]
    exact n.abs_value_le_underflow_iff
  | str s => exact holds_str_eq_false_iff s
  | arr items =>
    show (!items.isEmpty) = false ↔ items = []
    rw [Bool.not_eq_false', List.isEmpty_iff]
  | obj fields =>
    show (!fields.isEmpty) = false ↔ fields = ∅
    rw [Bool.not_eq_false', SortedMap.isEmpty_iff]

/-- A zero with a point is false, although it is none of the words. -/
theorem holds_point_zero : (Json.str "0.0").holds = false ∧ Text.lowercase (Text.trimmed "0.0") ∉ falseWords := by
  decide +kernel

end Json

end TelemetryAutomation
