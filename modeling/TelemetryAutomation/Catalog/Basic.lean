import TelemetryAutomation.Catalog.Device
import TelemetryAutomation.Catalog.Parameter

/-!
# The device catalog

A `Catalog` answers lookups of devices, topics and parameters by key, or fails to answer. That there
is no such entity is an answer and not a failure.

An `Inventory` is a catalog held in memory. It can be made unavailable, after which every lookup
fails.
-/

namespace TelemetryAutomation

/-- Why a catalog cannot answer. -/
inductive CatalogError
  | unavailable (reason : String)
  /-- A stored record cannot be decoded. -/
  | corrupt (entity reason : String)
deriving DecidableEq, Repr

/-- The wording of an error. -/
def CatalogError.message : CatalogError → String
  | unavailable reason => s!"device catalog unavailable: {reason}"
  | corrupt entity reason => s!"corrupt {entity} record: {reason}"

/-- Lookups of what is registered. They know no organizations: who may use what is decided where a
reference is resolved. -/
structure Catalog where
  device : Key .device → Except CatalogError (Option Device)
  topic : Key .topic → Except CatalogError (Option Topic)
  parameter : Key .parameter → Except CatalogError (Option Parameter)
  /-- The parameters of a topic in the order of their keys. -/
  topicParameters : Key .topic → Except CatalogError (List Parameter)

/-- A catalog held in memory. -/
structure Inventory where
  devices : SortedMap (Key .device) Device
  topics : SortedMap (Key .topic) Topic
  parameters : SortedMap (Key .parameter) Parameter
  unavailable : Option String

/-- The contents of an inventory as lists. -/
structure CatalogSnapshot where
  devices : List Device
  topics : List Topic
  parameters : List Parameter

namespace Inventory

/-- An inventory without entries. -/
def empty : Inventory := ⟨∅, ∅, ∅, none⟩

/-- Registers a device in the stead of any with its key. -/
def insertDevice (inventory : Inventory) (device : Device) : Inventory :=
  { inventory with devices := inventory.devices.insert device.id device }

/-- Registers a topic in the stead of any with its key. -/
def insertTopic (inventory : Inventory) (topic : Topic) : Inventory :=
  { inventory with topics := inventory.topics.insert topic.id topic }

/-- Registers a parameter in the stead of any with its key. -/
def insertParameter (inventory : Inventory) (parameter : Parameter) : Inventory :=
  { inventory with parameters := inventory.parameters.insert parameter.id parameter }

/-- The inventory of a snapshot; of two entries with one key the later counts. -/
def ofSnapshot (snapshot : CatalogSnapshot) : Inventory :=
  let inventory := snapshot.devices.foldl insertDevice empty
  let inventory := snapshot.topics.foldl insertTopic inventory
  snapshot.parameters.foldl insertParameter inventory

/-- Retires a parameter. -/
def deactivateParameter (inventory : Inventory) (id : Key .parameter) : Inventory :=
  { inventory with
    parameters := inventory.parameters.modify id ({ · with isActive := false }) }

/-- Removes a device; references to it dangle. -/
def removeDevice (inventory : Inventory) (id : Key .device) : Inventory :=
  { inventory with devices := inventory.devices.erase id }

/-- Makes every lookup fail from now on. -/
def setUnavailable (inventory : Inventory) (reason : String) : Inventory :=
  { inventory with unavailable := some reason }

/-- An answer, unless the inventory is unavailable. -/
def answer {α : Type} (inventory : Inventory) (value : α) : Except CatalogError α :=
  match inventory.unavailable with
  | some reason => .error (.unavailable reason)
  | none => .ok value

/-- The lookups of an inventory. -/
def catalog (inventory : Inventory) : Catalog where
  device id := inventory.answer (inventory.devices.get? id)
  topic id := inventory.answer (inventory.topics.get? id)
  parameter id := inventory.answer (inventory.parameters.get? id)
  topicParameters id := inventory.answer (inventory.parameters.toList.filter (·.topic = id))

end Inventory

instance : ToJson CatalogSnapshot where
  toJson s := .object [
    ("devices", toJson s.devices),
    ("topics", toJson s.topics),
    ("parameters", toJson s.parameters)]

instance : FromDocument CatalogSnapshot where
  read := RecordReader.read do
    return {
      devices := ← .defaulted "devices" []
      topics := ← .defaulted "topics" []
      parameters := ← .defaulted "parameters" [] }

end TelemetryAutomation
