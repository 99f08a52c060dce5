import TelemetryAutomation.Condition.Expression

/-!
# Guided conditions

A guided condition compares the value of the trigger or of the last query with a threshold. It is
compiled into an expression.
-/

namespace TelemetryAutomation

/-- A comparison as it was set up, possibly incomplete. -/
structure GuidedCondition where
  left : Option String
  operator : Option String
  right : Option Json
deriving DecidableEq

/-- Why a guided condition cannot be compiled. -/
inductive GuidedError
  | invalidLeftOperand
  | invalidOperator
  | nonNumericThreshold
deriving DecidableEq, Repr

/-- The wording of an error. -/
def GuidedError.message : GuidedError → String
  | invalidLeftOperand => "guided left operand must be trigger.value or query.value"
  | invalidOperator => "guided operator is invalid"
  | nonNumericThreshold => "guided threshold must be numeric"

namespace GuidedCondition

/-- What may be compared. -/
def leftOperands : List String := ["trigger.value", "query.value"]

/-- How it may be compared. -/
def operators : List String := [">", ">=", "<", "<=", "==", "!="]

/-- Reads the settings of a guided condition. -/
def ofSettings (settings : Object) : GuidedCondition where
  left := (settings.get? "left").bind Json.str?
  operator := (settings.get? "operator").bind Json.str?
  right := settings.get? "right"

/-- The expression of a comparison. -/
def expression (left operator : String) (threshold : Float) : Json :=
  .object [(operator, .arr [.object [("var", .str left)], .ofFloat threshold])]

/-- Compiles a condition, or names its first invalid part. -/
def compile (condition : GuidedCondition) : Except GuidedError Json := do
  let some left := condition.left.filter (· ∈ leftOperands) | throw .invalidLeftOperand
  let some operator := condition.operator.filter (· ∈ operators) | throw .invalidOperator
  let some threshold := condition.right.bind Json.number? | throw .nonNumericThreshold
  return expression left operator threshold

end GuidedCondition

end TelemetryAutomation
