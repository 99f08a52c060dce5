import TelemetryAutomation.Catalog.Device
import TelemetryAutomation.Json.Record

/-!
# Rows of the trigger index

A row says which telemetry a workflow version waits for: that of an organization, where a device, a
device type or a topic may narrow it down. A coarse filter on the values may be added.
-/

namespace TelemetryAutomation

/-- An entry of the trigger index. Where a key is missing, every value fits. -/
structure TriggerRow where
  organization : Key .organization
  workflowVersion : Key .workflowVersion
  device : Option (Key .device)
  deviceType : Option (Key .deviceType)
  topic : Option (Key .topic)
  filter : Option Json
deriving DecidableEq

/-- Where telemetry came from. -/
structure TelemetryScope where
  organization : Key .organization
  device : Key .device
  deviceType : Key .deviceType
  topic : Key .topic
deriving DecidableEq

/-- Whether a key that may be missing admits another. -/
def admits {entity : Entity} (wanted : Option (Key entity)) (key : Key entity) : Bool :=
  wanted.all (· = key)

/-- Whether a row waits for telemetry of a scope. -/
def TriggerRow.covers (row : TriggerRow) (scope : TelemetryScope) : Bool :=
  row.organization = scope.organization && admits row.device scope.device &&
    admits row.deviceType scope.deviceType && admits row.topic scope.topic

instance : ToJson TriggerRow where
  toJson r := .object <|
    [("organization_id", toJson r.organization),
      ("workflow_version_id", toJson r.workflowVersion),
      ("device_id", toJson r.device),
      ("device_type_id", toJson r.deviceType),
      ("schema_version_topic_id", toJson r.topic)] ++
    optionalField "filter_expression" r.filter

instance : FromDocument TriggerRow where
  read := RecordReader.read do
    return {
      organization := ← .required "organization_id"
      workflowVersion := ← .required "workflow_version_id"
      device := ← .optional "device_id"
      deviceType := ← .optional "device_type_id"
      topic := ← .optional "schema_version_topic_id"
      filter := ← .optional "filter_expression" }

end TelemetryAutomation
