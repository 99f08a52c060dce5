import TelemetryAutomation.Json.Record
import TelemetryAutomation.Text.Integer

/-!
# Keys of stored entities

Entities are known by integers that their store assigned. A key belongs to one kind of entity, so
keys of different kinds cannot be mixed up. Assigned keys are positive, and `Key.new?` and `Key.parse`
make no others; records that come from elsewhere may hold any integer of 64 bits.

As text a key carries a label of its kind, as in `dev_7`.
-/

namespace TelemetryAutomation

/-- The kinds of entities that have keys. -/
inductive Entity
  | organization
  | workflow
  | workflowVersion
  | run
  | device
  | deviceType
  | schemaVersion
  | topic
  | parameter
  | commandLog
  | user
  | telemetryRecord
deriving DecidableEq, Repr

namespace Entity

/-- All kinds. -/
def all : List Entity :=
  [organization, workflow, workflowVersion, run, device, deviceType, schemaVersion, topic,
    parameter, commandLog, user, telemetryRecord]

/-- The label in front of a key. -/
def label : Entity → String
  | organization => "org"
  | workflow => "wf"
  | workflowVersion => "wfv"
  | run => "run"
  | device => "dev"
  | deviceType => "dtype"
  | schemaVersion => "schema"
  | topic => "topic"
  | parameter => "param"
  | commandLog => "cmd"
  | user => "usr"
  | telemetryRecord => "tlm"

/-- The name of the keys of a kind. -/
def keyName : Entity → String
  | organization => "OrganizationId"
  | workflow => "WorkflowId"
  | workflowVersion => "WorkflowVersionId"
  | run => "RunId"
  | device => "DeviceId"
  | deviceType => "DeviceTypeId"
  | schemaVersion => "SchemaVersionId"
  | topic => "TopicId"
  | parameter => "ParameterDefinitionId"
  | commandLog => "CommandLogId"
  | user => "UserId"
  | telemetryRecord => "TelemetryRecordId"

end Entity

/-- The key of an entity of one kind. -/
@[ext]
structure Key (entity : Entity) where
  value : Int64
deriving DecidableEq

/-- Why a text is no key. -/
inductive KeyFault
  | integer (fault : Text.IntegerFault)
  | notPositive (value : Int64)

/-- A text that is no key of a kind. -/
structure KeyError where
  entity : Entity
  fault : KeyFault

/-- The wording of a fault. -/
def KeyFault.message : KeyFault → String
  | .integer fault => fault.message
  | .notPositive value => Text.decimal value.toInt ++ " is not a positive key"

/-- The wording of an error. -/
def KeyError.message (error : KeyError) : String :=
  s!"failed to parse {error.entity.keyName}: {error.fault.message}"

namespace Key

variable {entity : Entity}

/-- Keys are ordered by their integers. -/
instance : Ord (Key entity) := ⟨fun a b => compare a.value b.value⟩

instance : Std.TransOrd (Key entity) where
  eq_swap {a b} := (Std.OrientedCmp.eq_swap : compare a.value b.value = _)
  isLE_trans {a b c} := (Std.TransCmp.isLE_trans :
    (compare a.value b.value).isLE → (compare b.value c.value).isLE → (compare a.value c.value).isLE)

instance : Std.LawfulEqOrd (Key entity) where
  eq_of_compare {a b} (h : compare a.value b.value = .eq) :=
    Key.ext (Std.LawfulEqCmp.eq_of_compare h)

/-- The key of a positive integer. -/
def new? (value : Int64) : Option (Key entity) := if 0 < value then some ⟨value⟩ else none

/-- The key as text. -/
def text (key : Key entity) : String := s!"{entity.label}_{Text.decimal key.value.toInt}"

/-- Reads a positive key, with or without the label of its kind. -/
def parse (entity : Entity) (s : String) : Except KeyError (Key entity) :=
  let digits := ((entity.label ++ "_").toList.isPrefixOf? s.toList).getD s.toList
  match Text.readInt64 digits with
  | .error fault => .error ⟨entity, .integer fault⟩
  | .ok value =>
    match new? value with
    | some key => .ok key
    | none => .error ⟨entity, .notPositive value⟩

end Key

instance {entity : Entity} : ToString (Key entity) := ⟨Key.text⟩
instance {entity : Entity} : ToJson (Key entity) := ⟨fun key => .ofInt64 key.value⟩
instance {entity : Entity} : FromDocument (Key entity) := ⟨fun d => Key.mk <$> FromDocument.read d⟩

end TelemetryAutomation
