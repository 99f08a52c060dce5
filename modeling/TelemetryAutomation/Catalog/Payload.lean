import TelemetryAutomation.Catalog.Basic

/-!
# Payloads of commands

The payload of a command is checked against the active parameters of its topic. A parameter takes
the value under its key, also where that is `null`, and its default where the payload lacks the key.
Keys that belong to no parameter are passed over.
-/

namespace TelemetryAutomation

/-- The value that a payload gives to a parameter. -/
def Parameter.valueIn (parameter : Parameter) (payload : Object) : Option Json :=
  (payload.get? parameter.key).or parameter.defaultValue

/-- How a payload breaks the rules of a parameter. -/
def Parameter.violation? (parameter : Parameter) (payload : Object) : Option Violation :=
  match parameter.check (parameter.valueIn payload) with
  | .ok () => none
  | .error violation => some violation

/-- The violations of a payload by the keys of the parameters; none means that it is valid. -/
def Catalog.violations (catalog : Catalog) (topic : Topic) (payload : Object) :
    Except CatalogError (SortedMap String Violation) := do
  let parameters ← catalog.topicParameters topic.id
  return .ofList <| (parameters.filter (·.isActive)).filterMap fun parameter =>
    (parameter.violation? payload).map (parameter.key, ·)

end TelemetryAutomation
