import TelemetryAutomation.Identity.Key

/-!
# Devices and topics

A device belongs to an organization and runs at most one schema version. The schema version declares
topics, and a topic carries messages in one direction, seen from the device.
-/

namespace TelemetryAutomation

/-- A registered device. -/
structure Device where
  id : Key .device
  organization : Key .organization
  deviceType : Key .deviceType
  schemaVersion : Option (Key .schemaVersion)
  name : String
deriving DecidableEq

/-- Which way the messages of a topic go. -/
inductive Direction
  /-- From the device: telemetry. -/
  | publish
  /-- To the device: commands. -/
  | subscribe
deriving DecidableEq, Repr

/-- A topic of a schema version. -/
structure Topic where
  id : Key .topic
  schemaVersion : Key .schemaVersion
  key : String
  suffix : String
  direction : Direction
deriving DecidableEq

namespace Direction

/-- All directions. -/
def all : List Direction := [publish, subscribe]

/-- The written name. -/
def name : Direction → String
  | publish => "publish"
  | subscribe => "subscribe"

end Direction

instance : ToJson Direction := ⟨fun d => .str d.name⟩
instance : FromDocument Direction := ⟨FromDocument.constant (Direction.all.map fun d => (d.name, d))⟩

instance : ToJson Device where
  toJson d := .object [
    ("id", toJson d.id),
    ("organization_id", toJson d.organization),
    ("device_type_id", toJson d.deviceType),
    ("schema_version_id", toJson d.schemaVersion),
    ("name", toJson d.name)]

instance : FromDocument Device where
  read := RecordReader.read do
    return {
      id := ← .required "id"
      organization := ← .required "organization_id"
      deviceType := ← .required "device_type_id"
      schemaVersion := ← .optional "schema_version_id"
      name := ← .defaulted "name" "" }

instance : ToJson Topic where
  toJson t := .object [
    ("id", toJson t.id),
    ("schema_version_id", toJson t.schemaVersion),
    ("key", toJson t.key),
    ("suffix", toJson t.suffix),
    ("direction", toJson t.direction)]

instance : FromDocument Topic where
  read := RecordReader.read do
    return {
      id := ← .required "id"
      schemaVersion := ← .required "schema_version_id"
      key := ← .required "key"
      suffix := ← .defaulted "suffix" ""
      direction := ← .required "direction" }

end TelemetryAutomation
