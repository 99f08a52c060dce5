import TelemetryAutomation.Catalog.Basic
import TelemetryAutomation.Command.Basic
import TelemetryAutomation.Run.Context
import TelemetryAutomation.Run.Services
import TelemetryAutomation.Run.Step

/-!
# Outcomes of nodes

A node is completed, skipped or failed. The outcome holds what the step shows, and the context for
the nodes below; where there is none, the branch ends.
-/

namespace TelemetryAutomation

/-- Why a node failed. -/
inductive StepFault
  | depthExceeded
  | expressionMissing
  | commandIncomplete
  | targetDeviceInvalid
  | targetTopicInvalid
  | catalogFailed (error : CatalogError)
  | dispatchFailed (error : DispatchError)
  /-- The command was taken but failed on its way. -/
  | commandFailed (message : Option String)
  | querySettingsMissing
  | queryFailed (error : QueryError)
  | alertIncomplete
  | recipientsMissing
  | recipientInvalid (error : InvalidRecipient)
  | contentEmpty
  | deliveryFailed (error : AlertError)
deriving DecidableEq

namespace StepFault

/-- The reason that the step gives. -/
def reason : StepFault → String
  | depthExceeded => "max_traversal_depth_exceeded"
  | expressionMissing => "condition_config_missing_json_logic"
  | commandIncomplete => "command_config_incomplete"
  | targetDeviceInvalid => "command_target_device_invalid"
  | targetTopicInvalid => "command_target_topic_invalid"
  | catalogFailed _ => "catalog_lookup_failed"
  | dispatchFailed _ | commandFailed _ => "command_dispatch_failed"
  | querySettingsMissing => "query_config_missing"
  | queryFailed _ => "query_execution_failed"
  | alertIncomplete => "alert_config_incomplete"
  | recipientsMissing => "alert_recipients_missing"
  | recipientInvalid _ => "alert_recipients_invalid"
  | contentEmpty => "alert_rendered_content_empty"
  | deliveryFailed _ => "alert_dispatch_failed"

/-- The message that goes with the reason, for faults that have one; it may be unknown. -/
def message? : StepFault → Option (Option String)
  | catalogFailed error => some error.message
  | dispatchFailed error => some error.message
  | commandFailed message => some message
  | queryFailed error => some error.message
  | recipientInvalid error => some error.message
  | deliveryFailed error => some error.message
  | _ => none

end StepFault

instance : ToJson StepFault where
  toJson fault := .object <|
    ("reason", .str fault.reason) :: optionalField "message" fault.message?

/-- Why a node was passed over. -/
inductive SkipReason
  | notImplemented
  | alertSettingsMissing
  | alertPlaceholder
deriving DecidableEq, Repr

/-- The reason that the step gives. -/
def SkipReason.name : SkipReason → String
  | notImplemented => "node_type_not_implemented"
  | alertSettingsMissing => "alert_config_missing"
  | alertPlaceholder => "alert_config_legacy_placeholder"

/-- What became of a node. -/
structure Outcome where
  status : StepStatus
  output : Json
  error : Option Json
  /-- The context for the nodes below. -/
  next : Option Context
deriving DecidableEq

namespace Outcome

/-- The node did its work. -/
def completed (output : Json) (next : Context) : Outcome := ⟨.completed, output, none, some next⟩

/-- The node failed; the branch ends. -/
def failedWith (output : Json) (fault : StepFault) : Outcome :=
  ⟨.failed, output, some (toJson fault), none⟩

/-- The node failed before it put anything out. -/
def failed (fault : StepFault) : Outcome := failedWith (.object []) fault

/-- The node was passed over; its children run. -/
def skipped (reason : SkipReason) (next : Context) : Outcome :=
  ⟨.skipped, errorFor reason.name, none, some next⟩

end Outcome

end TelemetryAutomation
