import TelemetryAutomation.Alert.Settings
import TelemetryAutomation.Alert.Slug
import TelemetryAutomation.Json.Path
import TelemetryAutomation.Run.Basic
import TelemetryAutomation.Run.Context

/-!
# Alerts

An alert is a message to some recipients. It is rendered from templates with the run and the context
of its node, and it stays silent while the key of its node and trigger is claimed.

An `Outbox` keeps the alerts in memory instead of sending them.
-/

namespace TelemetryAutomation

/-- An alert that is ready to be sent. -/
structure AlertMessage where
  channel : String
  recipients : List String
  subject : String
  body : String
deriving DecidableEq

/-- Why an alert was not sent. -/
inductive AlertError
  | unsupportedChannel (channel : String)
  | delivery (reason : String)
deriving DecidableEq, Repr

/-- The wording of an error. -/
def AlertError.message : AlertError → String
  | unsupportedChannel channel => "Unsupported alert channel [" ++ channel ++ "]."
  | delivery reason => s!"alert delivery failed: {reason}"

namespace Alert

/-- The document with which the templates of an alert are rendered. -/
def templateContext (run : Run) (context : Context) (node : NodeId) (cooldown : Cooldown) : Json :=
  let find (value : Json) (path : String) := (value.lookup path).getD .null
  .object [
    ("run", .object [
      ("id", toJson run.id),
      ("organization_id", toJson run.organization),
      ("workflow_id", toJson run.workflow),
      ("workflow_version_id", toJson run.workflowVersion),
      ("trigger_type", toJson run.triggerType)]),
    ("trigger", context.trigger),
    ("payload", .obj context.payload),
    ("query", context.query),
    ("queries", .obj context.queries),
    ("alert", .object [("node_id", .str node), ("cooldown", toJson cooldown)]),
    ("run_id", toJson run.id),
    ("workflow_id", toJson run.workflow),
    ("workflow_version_id", toJson run.workflowVersion),
    ("trigger_value", find context.trigger "value"),
    ("query_value", find context.query "value"),
    ("window_start", find context.query "window.start"),
    ("window_end", find context.query "window.end")]

/-- A part of the trigger in a cooldown key: an integer or a text. -/
def keyPart (trigger : Json) (name : String) : String :=
  match trigger.field? name with
  | some (.num n) => if n.isInt then n.text else "none"
  | some (.str s) => s
  | _ => "none"

/-- The key under which a node is silent after it sent an alert for a trigger. -/
def cooldownKey (version : Key .workflowVersion) (node : NodeId) (trigger : Json) : String :=
  ":".intercalate [
    "automation:alert-cooldown",
    Text.decimal version.value.toInt,
    Text.slug node,
    keyPart trigger "device_id",
    keyPart trigger "schema_version_topic_id"]

end Alert

/-- A keeper of alerts; it may refuse them all. -/
structure Outbox where
  failure : Option String
  sent : List AlertMessage

namespace Outbox

/-- An outbox without alerts. -/
def empty : Outbox := ⟨none, []⟩

/-- An outbox that refuses every alert. -/
def failing (reason : String) : Outbox := ⟨some reason, []⟩

/-- The confirmation that an alert was sent. -/
def receipt (message : AlertMessage) : Json :=
  .object [
    ("channel", .str message.channel),
    ("recipient_count", .ofNat message.recipients.length),
    ("recipients", .ofStrings message.recipients)]

/-- Sends an alert. -/
def deliver (outbox : Outbox) (message : AlertMessage) : Except AlertError Json × Outbox :=
  if message.channel ≠ Alert.mailChannel then
    (.error (.unsupportedChannel message.channel), outbox)
  else match outbox.failure with
    | some reason => (.error (.delivery reason), outbox)
    | none => (.ok (receipt message), { outbox with sent := outbox.sent ++ [message] })

end Outbox

instance : ToJson AlertMessage where
  toJson m := .object [
    ("channel", toJson m.channel),
    ("recipients", .ofStrings m.recipients),
    ("subject", toJson m.subject),
    ("body", toJson m.body)]

instance : FromDocument AlertMessage where
  read := RecordReader.read do
    return {
      channel := ← .required "channel"
      recipients := ← .required "recipients"
      subject := ← .required "subject"
      body := ← .required "body" }

end TelemetryAutomation
