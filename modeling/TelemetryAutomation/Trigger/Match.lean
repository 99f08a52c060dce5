import TelemetryAutomation.Catalog.Telemetry
import TelemetryAutomation.Condition.Comparison
import TelemetryAutomation.Trigger.Index

/-!
# Matching telemetry

A telemetry record sets off the versions that have a row for it whose filter passes. The versions
come in ascending order and once each. A device that the catalog does not know sets off nothing.
-/

namespace TelemetryAutomation

namespace TriggerRow

/-- The filter of a row; only an object or an array that is not empty is one. -/
def filter? (row : TriggerRow) : Option Json :=
  row.filter.filter fun filter =>
    match filter with
    | .obj fields => !fields.isEmpty
    | .arr items => !items.isEmpty
    | _ => false

/-- Whether the filter of a row passes the values of a record. -/
def passes (evaluate : (expression data : Json) → Json) (values : Object) (row : TriggerRow) :
    Bool :=
  row.filter?.all fun filter => (evaluate filter (.obj values)).holds

end TriggerRow

namespace Trigger

/-- Where a record of a device came from. -/
def scopeOf (device : Device) (record : TelemetryRecord) : TelemetryScope where
  organization := device.organization
  device := device.id
  deviceType := device.deviceType
  topic := record.topic

/-- Different versions in ascending order. -/
def ascending (versions : List (Key .workflowVersion)) : List (Key .workflowVersion) :=
  (SortedMap.ofList (versions.map (·, ()))).keys

/-- The versions that a record sets off. -/
def matching (catalog : Catalog) (evaluate : (expression data : Json) → Json)
    (record : TelemetryRecord) : IndexAction (List (Key .workflowVersion)) := do
  match catalog.device record.device with
  | .error error => throw (.catalog error)
  | .ok none => return []
  | .ok (some device) =>
    let candidates ← TriggerIndex.candidates (scopeOf device record)
    let passing := candidates.filter (·.passes evaluate record.values)
    return ascending (passing.map (·.workflowVersion))

end Trigger

end TelemetryAutomation
