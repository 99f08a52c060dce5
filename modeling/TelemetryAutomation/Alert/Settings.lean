import TelemetryAutomation.Alert.Cooldown
import TelemetryAutomation.Alert.Recipient

/-!
# Settings of alerts

An alert that is set up for delivery names its channel, recipients, subject, body and cooldown. One
with none of these is a placeholder of the editor.
-/

namespace TelemetryAutomation.Alert

/-- The names of the settings that belong to a delivery. -/
def deliveryFields : List String := ["channel", "recipients", "subject", "body", "cooldown"]

/-- The only channel. -/
def mailChannel : String := "email"

/-- Whether an alert is set up for delivery, be it incompletely. -/
def isDelivering (settings : Object) : Bool := deliveryFields.any settings.contains

/-- Why an alert cannot be delivered. -/
inductive SettingsError
  | channel
  | noRecipient
  | invalidRecipient
  | subject
  | body
  | invalidCooldown
  | noCooldown
deriving DecidableEq, Repr

/-- The wording of an error. -/
def SettingsError.message : SettingsError → String
  | channel => "channel must be email"
  | noRecipient => "requires at least one recipient"
  | invalidRecipient => "recipients must be valid email addresses"
  | subject => "subject is required"
  | body => "body is required"
  | invalidCooldown => "cooldown must include positive value and valid unit"
  | noCooldown => "cooldown configuration is required"

/-- Checks that there are recipients and that all of them are addresses. -/
def checkRecipients (recipients : Option Json) : Except SettingsError Unit :=
  match recipients with
  | some (.arr entries) =>
    let entries := ((entries.filterMap Json.str?).map Text.trimmed).filter (!·.isEmpty)
    if !entries.all Recipient.isAddress then .error .invalidRecipient
    else if entries.isEmpty then .error .noRecipient
    else .ok ()
  | _ => .error .noRecipient

/-- Whether a setting is a text that is not blank. -/
def hasText (settings : Object) (name : String) : Bool :=
  ((settings.get? name).bind Json.str?).any fun text => !(Text.trimmed text).isEmpty

/-- Checks that there is a cooldown and that it can be read. -/
def checkCooldown (cooldown : Option Json) : Except SettingsError Unit :=
  match cooldown with
  | some (.obj _) =>
    if (Cooldown.ofSettings? cooldown).isSome then .ok () else .error .invalidCooldown
  | _ => .error .noCooldown

/-- Checks the settings of an alert; a placeholder passes. -/
def checkSettings (settings : Option Object) : Except SettingsError Unit :=
  match settings.filter isDelivering with
  | none => .ok ()
  | some settings => do
    unless (settings.get? "channel").bind Json.str? = some mailChannel do throw .channel
    checkRecipients (settings.get? "recipients")
    unless hasText settings "subject" do throw .subject
    unless hasText settings "body" do throw .body
    checkCooldown (settings.get? "cooldown")

end TelemetryAutomation.Alert
