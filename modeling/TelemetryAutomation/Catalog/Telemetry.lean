import TelemetryAutomation.Identity.Key
import TelemetryAutomation.Time.Timestamp

/-!
# Telemetry

A telemetry record is one reading that a device published on a topic.
-/

namespace TelemetryAutomation

/-- A reading of a device. -/
structure TelemetryRecord where
  id : Key .telemetryRecord
  device : Key .device
  topic : Key .topic
  /-- The values after they were brought into the form of the parameters. -/
  values : Object
  recordedAt : Timestamp
deriving DecidableEq

instance : ToJson TelemetryRecord where
  toJson r := .object [
    ("id", toJson r.id),
    ("device_id", toJson r.device),
    ("schema_version_topic_id", toJson r.topic),
    ("transformed_values", toJson r.values),
    ("recorded_at", toJson r.recordedAt)]

instance : FromDocument TelemetryRecord where
  read := RecordReader.read do
    return {
      id := ← .required "id"
      device := ← .required "device_id"
      topic := ← .required "schema_version_topic_id"
      values := ← .defaulted "transformed_values" ∅
      recordedAt := ← .required "recorded_at" }

end TelemetryAutomation
