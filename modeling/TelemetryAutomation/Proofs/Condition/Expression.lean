import TelemetryAutomation.Condition.Expression
import TelemetryAutomation.Proofs.SortedMap

/-!
# How expressions are evaluated

The value of an expression is made of the values of its parts: an array is evaluated item by item, and an object
with a single field applies the operator that the field names to the values of the operands. Any other value
stands for itself.
-/

namespace TelemetryAutomation.Expression

/-- The operands that a value lists: the items of an array, the values of an object, and anything else alone. -/
def operands : Json → List Json
  | .arr items => items
  | .obj fields => fields.toList
  | literal => [literal]

variable (data : Json)

theorem evaluateItems_eq (items : List Json) : evaluateItems data items = items.map (evaluate data) := by
  induction items with
  | nil => rfl
  | cons item rest ih => rw [evaluateItems, List.map_cons, ih]

theorem evaluateRow_eq {keys : List String} (row : Row Json keys) :
    evaluateRow data row = row.toList.map (evaluate data) := by
  induction row with
  | nil => rfl
  | cons value rest ih => rw [evaluateRow, Row.toList, List.map_cons, ih]

theorem operandValues_eq (operand : Json) :
    operandValues data operand = (operands operand).map (evaluate data) := by
  cases operand with
  | arr items => exact evaluateItems_eq data items
  | obj fields => exact evaluateRow_eq data fields.values
  | _ => rfl

theorem evaluate_arr (items : List Json) : evaluate data (.arr items) = .arr (items.map (evaluate data)) :=
  congrArg Json.arr (evaluateItems_eq data items)

/-- An object with a single field is evaluated by the operator of its name. -/
theorem evaluate_object (name : String) (operand : Json) :
    evaluate data (.object [(name, operand)]) =
      match Operator.ofName? name with
      | some .var => resolve operand data
      | some operator => apply operator (operandValues data operand)
      | none => operand := rfl

/-- Every operator but `var` is applied to the values of its operands. -/
theorem evaluate_operator {name : String} {operator : Operator} (hname : Operator.ofName? name = some operator)
    (hvar : operator ≠ .var) (operand : Json) :
    evaluate data (.object [(name, operand)]) = apply operator ((operands operand).map (evaluate data)) := by
  rw [evaluate_object, hname, ← operandValues_eq]
  cases operator with
  | var => exact absurd rfl hvar
  | _ => rfl

/-- An object either applies an operator or stands for itself. -/
theorem obj_cases (fields : Object) :
    (∃ name operand, Json.obj fields = .object [(name, operand)]) ∨
      ∀ data, evaluate data (.obj fields) = .obj fields := by
  obtain ⟨names, sorted, row⟩ := fields
  match names, row with
  | [], .nil => exact .inr fun _ => rfl
  | [name], .cons operand .nil => exact .inl ⟨name, operand, rfl⟩
  | _ :: _ :: _, .cons _ (.cons _ _) => exact .inr fun _ => rfl

end TelemetryAutomation.Expression
