import TelemetryAutomation.Catalog.Basic

/-!
# Resolving references

A reference from a workflow into the catalog is followed link by link: from the organization to one
of its devices, from the device to the schema version that it runs, from there to a topic of the
right direction, and from the topic to one of its active parameters. The first broken link is the
reason for a failure.
-/

namespace TelemetryAutomation

/-- The first broken link of a reference. -/
inductive ResolutionError
  /-- The device is unknown, of another organization, or runs no schema version. -/
  | device (id : Key .device)
  /-- The topic is unknown, of another schema version, or of the other direction. -/
  | topic (id : Key .topic) (expected : Direction)
  /-- The parameter is unknown, of another topic, or retired. -/
  | parameter (id : Key .parameter)
  /-- The catalog did not answer. -/
  | catalog (error : CatalogError)
deriving DecidableEq

/-- The wording of an error. -/
def ResolutionError.message : ResolutionError → String
  | device id => s!"invalid device {id}"
  | topic id expected => s!"invalid {expected.name} topic {id}"
  | parameter id => s!"invalid parameter {id}"
  | catalog error => error.message

/-- What a telemetry trigger listens to. -/
structure TriggerSource where
  device : Device
  topic : Topic
  parameter : Parameter

/-- Where a command goes. -/
structure CommandTarget where
  device : Device
  topic : Topic

namespace Catalog

/-- An answer of the catalog that has to be there and pass a test. -/
def demand {α : Type} (answer : Except CatalogError (Option α)) (test : α → Bool)
    (broken : ResolutionError) : Except ResolutionError α :=
  match answer with
  | .error error => .error (.catalog error)
  | .ok none => .error broken
  | .ok (some value) => if test value then .ok value else .error broken

/-- A device of an organization, with its schema version. -/
def resolveDevice (catalog : Catalog) (organization : Key .organization) (id : Key .device) :
    Except ResolutionError (Device × Key .schemaVersion) := do
  let device ← demand (catalog.device id) (·.organization = organization) (.device id)
  match device.schemaVersion with
  | some schemaVersion => return (device, schemaVersion)
  | none => throw (.device id)

/-- A topic of a schema version and a direction. -/
def resolveTopic (catalog : Catalog) (schemaVersion : Key .schemaVersion) (id : Key .topic)
    (direction : Direction) : Except ResolutionError Topic :=
  demand (catalog.topic id)
    (fun topic => topic.schemaVersion = schemaVersion && topic.direction = direction)
    (.topic id direction)

/-- An active parameter of a topic. -/
def resolveParameter (catalog : Catalog) (topic : Key .topic) (id : Key .parameter) :
    Except ResolutionError Parameter :=
  demand (catalog.parameter id) (fun parameter => parameter.topic = topic && parameter.isActive)
    (.parameter id)

/-- The device, the publish topic and the parameter of a trigger. -/
def resolveTriggerSource (catalog : Catalog) (organization : Key .organization)
    (device : Key .device) (topic : Key .topic) (parameter : Key .parameter) :
    Except ResolutionError TriggerSource := do
  let (device, schemaVersion) ← catalog.resolveDevice organization device
  let topic ← catalog.resolveTopic schemaVersion topic .publish
  let parameter ← catalog.resolveParameter topic.id parameter
  return { device, topic, parameter }

/-- The device and the subscribe topic of a command. -/
def resolveCommandTarget (catalog : Catalog) (organization : Key .organization)
    (device : Key .device) (topic : Key .topic) : Except ResolutionError CommandTarget := do
  let (device, schemaVersion) ← catalog.resolveDevice organization device
  let topic ← catalog.resolveTopic schemaVersion topic .subscribe
  return { device, topic }

end Catalog

end TelemetryAutomation
