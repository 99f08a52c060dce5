import TelemetryAutomation.Proofs.Condition.Comparison
import TelemetryAutomation.Proofs.Condition.Expression

/-!
# Comparisons agree with each other

Conditions compare the values of two expressions, by their order or by their equality across types. The order is
that of numbers where both values hold one, else that of texts, and it does not matter which value comes first.
Equality has rules of its own, but of numbers and texts just those are equal that neither precede nor follow each
other.

Main result: `Comparison.passes_trichotomy`.
-/

namespace TelemetryAutomation

open Expression (evaluate)

/-! ## The order of values -/

namespace Json

variable {left right : Json}

/-- Whether the value is a number or a text. -/
def isNumberOrText : Json → Bool
  | .num _ => true
  | .str _ => true
  | _ => false

/-- Unless both values hold numbers, their texts are compared. -/
theorem order_eq_compare_texts (h : left.number? = none ∨ right.number? = none) :
    left.order right = compare left.scalarText right.scalarText := by
  rcases h with hleft | hright
  · rw [order, hleft]
  · rw [order, hright]
    cases left.number? <;> rfl

/-- To compare two values the other way round turns the outcome round. -/
instance : Std.OrientedCmp Json.order where
  eq_swap {left right} := by
    -- whether numbers or texts are compared does not depend on which value comes first
    have htexts (h : left.number? = none ∨ right.number? = none) :
        left.order right = (right.order left).swap := by
      rw [order_eq_compare_texts h, order_eq_compare_texts h.symm]
      exact Std.OrientedOrd.eq_swap
    cases hleft : left.number? with
    | none => exact htexts (.inl hleft)
    | some x => cases hright : right.number? with
      | none => exact htexts (.inr hright)
      | some y =>
        rw [order_of_number? hleft hright, order_of_number? hright hleft]
        exact Std.OrientedOrd.eq_swap

/-- Unless both hold numbers, numbers and texts are equal if their texts are. -/
theorem looseEq_iff_texts (hleft : left.isNumberOrText) (hright : right.isNumberOrText)
    (h : left.number? = none ∨ right.number? = none) :
    left.looseEq right ↔ left.scalarText = right.scalarText := by
  cases left with
  | num m => cases right with
    | num n => rcases h with h | h <;> cases h
    | str t =>
      have hread : numericText? t = none := h.resolve_left nofun
      rw [looseEq, hread]
      exact beq_iff_eq
    | _ => cases hright
  | str s => cases right with
    | num n =>
      have hread : numericText? s = none := h.resolve_right nofun
      rw [looseEq, hread]
      exact beq_iff_eq
    | str t =>
      rcases h with hread | hread
      · have hread' : numericText? s = none := hread
        rw [looseEq, hread']
        exact beq_iff_eq
      · have hread' : numericText? t = none := hread
        rw [looseEq, hread']
        cases numericText? s <;> exact beq_iff_eq
    | _ => cases hright
  | _ => cases hleft

/-- **Order and equality agree** on numbers and texts. -/
theorem order_eq_eq_iff (hleft : left.isNumberOrText) (hright : right.isNumberOrText) :
    left.order right = .eq ↔ left.looseEq right := by
  have htexts (h : left.number? = none ∨ right.number? = none) :
      left.order right = .eq ↔ left.looseEq right := by
    rw [order_eq_compare_texts h, looseEq_iff_texts hleft hright h, Std.compare_eq_iff_eq]
  cases hx : left.number? with
  | none => exact htexts (.inl hx)
  | some x => cases hy : right.number? with
    | none => exact htexts (.inr hy)
    | some y => rw [order_of_number? hx hy, looseEq_of_number? hx hy, compare_eq_iff_eq]

end Json

/-! ## Comparisons of expressions -/

/-- How two values are compared. -/
inductive Comparison
  | gt
  | ge
  | lt
  | le
  | eq
  | ne
deriving DecidableEq

namespace Comparison

def name : Comparison → String
  | gt => ">"
  | ge => ">="
  | lt => "<"
  | le => "<="
  | eq => "=="
  | ne => "!="

/-- The operator of expressions that compares in this way. -/
def operator : Comparison → Operator
  | gt => .gt
  | ge => .ge
  | lt => .lt
  | le => .le
  | eq => .eq
  | ne => .ne

/-- The outcome for two values. -/
def outcome (comparison : Comparison) (left right : Json) : Bool :=
  match comparison with
  | gt => left.order right = .gt
  | ge => left.order right ≠ .lt
  | lt => left.order right = .lt
  | le => left.order right ≠ .gt
  | eq => left.looseEq right
  | ne => !left.looseEq right

variable (comparison : Comparison) (data left right : Json)

theorem ofName?_name : Operator.ofName? comparison.name = some comparison.operator := by
  cases comparison <;> rfl

theorem operator_ne_var : comparison.operator ≠ .var := by
  cases comparison <;> nofun

theorem apply_operator :
    Expression.apply comparison.operator [left, right] = .bool (comparison.outcome left right) := by
  cases comparison <;> rfl

/-- A comparison of two expressions is that of their values. -/
theorem evaluate_comparison :
    evaluate data (.object [(comparison.name, .arr [left, right])]) =
      .bool (comparison.outcome (evaluate data left) (evaluate data right)) := by
  rw [Expression.evaluate_operator data comparison.ofName?_name comparison.operator_ne_var]
  exact comparison.apply_operator _ _

/-- The condition that compares two expressions is true in some data. -/
def Passes : Prop :=
  evaluate data (.object [(comparison.name, .arr [left, right])]) = .bool true

theorem passes_iff :
    comparison.Passes data left right ↔ comparison.outcome (evaluate data left) (evaluate data right) := by
  rw [Passes, evaluate_comparison, Json.bool.injEq]

/-! ## Comparisons by order alone -/

/-- Whether a comparison is true of things that stand in some order. -/
def fits : Comparison → Ordering → Bool
  | gt, order => order = .gt
  | ge, order => order ≠ .lt
  | lt, order => order = .lt
  | le, order => order ≠ .gt
  | eq, order => order = .eq
  | ne, order => order ≠ .eq

/-- The comparison that says in which order things stand. -/
def ofOrdering : Ordering → Comparison
  | .lt => lt
  | .eq => eq
  | .gt => gt

theorem existsUnique_fits (order : Ordering) :
    ∃! comparison, comparison ∈ [lt, eq, gt] ∧ fits comparison order := by
  have hunique : ∀ comparison ∈ [lt, eq, gt], fits comparison order → comparison = ofOrdering order := by
    cases order <;> decide
  refine ⟨ofOrdering order, ?_, fun comparison h => hunique comparison h.1 h.2⟩
  cases order <;> decide

/-- Of numbers and texts the order decides all comparisons. -/
theorem outcome_eq_fits {left right : Json} (hleft : left.isNumberOrText) (hright : right.isNumberOrText) :
    comparison.outcome left right = comparison.fits (left.order right) := by
  have hequal : left.looseEq right = decide (left.order right = .eq) := by
    rw [Bool.eq_iff_iff, decide_eq_true_eq, Json.order_eq_eq_iff hleft hright]
  cases comparison with
  | eq => exact hequal
  | ne => rw [outcome, hequal, fits, decide_not]
  | _ => rfl

/-- **The comparisons agree.** A value is less than another exactly if that one is greater, and each comparison
is true exactly if its opposite is not. Of two values that are numbers or texts, the first is either less than the
second or equal to it or greater, and the other comparisons follow from these three. -/
theorem passes_trichotomy :
    (lt.Passes data left right ↔ gt.Passes data right left) ∧
      (le.Passes data left right ↔ ¬ gt.Passes data left right) ∧
      (ge.Passes data left right ↔ ¬ lt.Passes data left right) ∧
      (ne.Passes data left right ↔ ¬ eq.Passes data left right) ∧
      ((evaluate data left).isNumberOrText → (evaluate data right).isNumberOrText →
        (∃! comparison, comparison ∈ [lt, eq, gt] ∧ comparison.Passes data left right) ∧
        (le.Passes data left right ↔ lt.Passes data left right ∨ eq.Passes data left right) ∧
        (ge.Passes data left right ↔ gt.Passes data left right ∨ eq.Passes data left right)) := by
  simp only [passes_iff]
  refine ⟨?_, ?_, ?_, ?_, fun hleft hright => ?_⟩
  · simp only [outcome, decide_eq_true_eq]
    exact Std.OrientedCmp.gt_iff_lt.symm
  · simp only [outcome, decide_eq_true_eq, ne_eq]
  · simp only [outcome, decide_eq_true_eq, ne_eq]
  · simp only [outcome, Bool.not_eq_true', Bool.not_eq_true]
  · simp only [outcome_eq_fits _ hleft hright]
    refine ⟨existsUnique_fits _, ?_⟩
    cases (evaluate data left).order (evaluate data right) <;> decide

end Comparison

namespace Sample

/-- A text that writes a number beyond all doubles. -/
def immense : Json := .object [("reading", .str "1e400")]

/-- The reading in some data. -/
def readingOf : Json := .object [("var", .str "reading")]

end Sample

namespace Comparison

theorem passes_trichotomy_immense :
    (evaluate Sample.immense Sample.readingOf).isNumberOrText ∧
      (evaluate Sample.immense (.ofInt64 7)).isNumberOrText ∧
      (∃! comparison,
        comparison ∈ [lt, eq, gt] ∧ comparison.Passes Sample.immense Sample.readingOf (.ofInt64 7)) ∧
      (le.Passes Sample.immense Sample.readingOf (.ofInt64 7) ↔
        lt.Passes Sample.immense Sample.readingOf (.ofInt64 7) ∨
          eq.Passes Sample.immense Sample.readingOf (.ofInt64 7)) := by
  have hleft : (evaluate Sample.immense Sample.readingOf).isNumberOrText := by decide
  have hright : (evaluate Sample.immense (.ofInt64 7)).isNumberOrText := by decide
  obtain ⟨-, -, -, -, h⟩ := passes_trichotomy Sample.immense Sample.readingOf (.ofInt64 7)
  exact ⟨hleft, hright, (h hleft hright).1, (h hleft hright).2.1⟩

/-- What is no number is compared as text, and the text of seven comes later. -/
example : lt.outcome (.str "1e400") (.ofInt64 7) := by decide +kernel

end Comparison

end TelemetryAutomation
