import TelemetryAutomation.Catalog.Device
import TelemetryAutomation.Time.Timestamp

/-!
# Commands

A command is a payload sent to a device on one of its topics. Handing it over either fails, and then
nothing was sent, or yields a log of the command with its status.

A `CommandDesk` keeps the commands in memory instead of sending them.
-/

namespace TelemetryAutomation

/-- How far a command has come. -/
inductive CommandStatus
  | pending
  | sent
  | acknowledged
  | completed
  | failed
  | timeout
deriving DecidableEq, Repr

namespace CommandStatus

/-- All states. -/
def all : List CommandStatus := [pending, sent, acknowledged, completed, failed, timeout]

/-- The written name. -/
def name : CommandStatus → String
  | pending => "pending"
  | sent => "sent"
  | acknowledged => "acknowledged"
  | completed => "completed"
  | failed => "failed"
  | timeout => "timeout"

end CommandStatus

/-- A command that was handed over. -/
structure CommandLog where
  id : Key .commandLog
  device : Key .device
  topic : Key .topic
  payload : Object
  status : CommandStatus
  errorMessage : Option String
  user : Option (Key .user)
  createdAt : Timestamp
deriving DecidableEq

/-- Why a command was not handed over. -/
inductive DispatchError
  /-- The transport did not take it. -/
  | transport (reason : String)
  /-- There is no way to the device. -/
  | notRoutable (reason : String)
deriving DecidableEq, Repr

/-- The wording of an error. -/
def DispatchError.message : DispatchError → String
  | transport reason => s!"command transport failed: {reason}"
  | notRoutable reason => s!"command not routable: {reason}"

/-- A keeper of commands. Every command gets the same status and the next key, unless the transport
is down. -/
structure CommandDesk where
  status : CommandStatus
  transportFailure : Option String
  nextId : Int64
  logs : List CommandLog

namespace CommandDesk

/-- A desk without commands. -/
def withStatus (status : CommandStatus) : CommandDesk := ⟨status, none, 1, []⟩

/-- A desk that reports commands as sent. -/
def new : CommandDesk := withStatus .sent

/-- A desk whose transport takes no command. -/
def failing (reason : String) : CommandDesk := { new with transportFailure := some reason }

/-- Hands a command over. -/
def dispatch (desk : CommandDesk) (device : Device) (topic : Topic) (payload : Object)
    (user : Option (Key .user)) (time : Timestamp) :
    Except DispatchError CommandLog × CommandDesk :=
  match desk.transportFailure with
  | some reason => (.error (.transport reason), desk)
  | none =>
    let after := { desk with nextId := desk.nextId + 1 }
    match Key.new? desk.nextId with
    | none =>
      let reason := "command id sequence exhausted at " ++ Text.decimal desk.nextId.toInt
      (.error (.transport reason), after)
    | some id =>
      let errorMessage := if desk.status = .failed then some "device rejected command" else none
      let log := ⟨id, device.id, topic.id, payload, desk.status, errorMessage, user, time⟩
      (.ok log, { after with logs := desk.logs ++ [log] })

end CommandDesk

instance : ToJson CommandStatus := ⟨fun s => .str s.name⟩

instance : FromDocument CommandStatus :=
  ⟨FromDocument.constant (CommandStatus.all.map fun s => (s.name, s))⟩

instance : ToJson CommandLog where
  toJson l := .object <|
    [("id", toJson l.id),
      ("device_id", toJson l.device),
      ("topic_id", toJson l.topic),
      ("payload", toJson l.payload),
      ("status", toJson l.status),
      ("created_at", toJson l.createdAt)] ++
    optionalField "error_message" l.errorMessage ++ optionalField "user_id" l.user

instance : FromDocument CommandLog where
  read := RecordReader.read do
    return {
      id := ← .required "id"
      device := ← .required "device_id"
      topic := ← .required "topic_id"
      payload := ← .required "payload"
      status := ← .required "status"
      errorMessage := ← .optional "error_message"
      user := ← .optional "user_id"
      createdAt := ← .required "created_at" }

end TelemetryAutomation
