import TelemetryAutomation.Alert.Message
import TelemetryAutomation.Proofs.Text.Integer
import TelemetryAutomation.Proofs.Text.Words

/-!
# The keys of cooldowns

The key of a cooldown is made of a version, the slug of a node and two integers of the trigger, with colons in
between. None of these parts has a colon itself, so a key determines them: alerts share a key exactly if they
agree in all of them. Of the node only the words count (`cooldownKey_eq_iff`).
-/

namespace TelemetryAutomation

namespace Alert

/-- A trigger names a device and a topic by their integers. -/
structure Names (trigger : Json) (device topic : Int) : Prop where
  device : ∃ h, trigger.field? "device_id" = some (.num (.int device h))
  topic : ∃ h, trigger.field? "schema_version_topic_id" = some (.num (.int topic h))

theorem keyPart_of_int {trigger : Json} {name : String} {n : Int}
    (h : ∃ hn, trigger.field? name = some (.num (.int n hn))) :
    keyPart trigger name = Text.decimal n := by
  obtain ⟨hn, h⟩ := h
  rw [keyPart, h]
  rfl

variable {version version' : Key .workflowVersion} {node node' : NodeId} {trigger trigger' : Json}
  {device device' topic topic' : Int}

/-- The parts of a key behind its first word. -/
theorem toList_cooldownKey (h : Names trigger device topic) :
    (cooldownKey version node trigger).toList =
      "automation:alert-cooldown".toList ++ ':' ::
        Text.joined ':' [(Text.decimal version.value.toInt).toList, (Text.slug node).toList,
          (Text.decimal device).toList, (Text.decimal topic).toList] := by
  rw [cooldownKey, String.toList_intercalate, keyPart_of_int h.device, keyPart_of_int h.topic]
  exact Text.intercalate_eq_joined ':' _

/-- A key determines the version, the words of the node, the device and the topic. -/
theorem cooldownKey_eq_iff (h : Names trigger device topic) (h' : Names trigger' device' topic') :
    cooldownKey version node trigger = cooldownKey version' node' trigger' ↔
      version = version' ∧ Text.words node = Text.words node' ∧ device = device' ∧ topic = topic' := by
  have hcolon (version : Key .workflowVersion) (node : NodeId) (device topic : Int) :
      ∀ part ∈ [(Text.decimal version.value.toInt).toList, (Text.slug node).toList,
        (Text.decimal device).toList, (Text.decimal topic).toList], ':' ∉ part := by
    simp [Text.colon_not_mem_decimal, Text.colon_not_mem_slug]
  have hversion : version.value.toInt = version'.value.toInt ↔ version = version' := by
    rw [Int64.toInt_inj, Key.ext_iff]
  rw [← String.toList_inj, toList_cooldownKey h, toList_cooldownKey h', List.append_cancel_left_eq,
    List.cons.injEq,
    Text.joined_inj (List.cons_ne_nil _ _) (List.cons_ne_nil _ _) (hcolon _ _ _ _) (hcolon _ _ _ _)]
  simp [String.toList_inj, Text.decimal_inj, Text.slug_eq_iff, hversion]

end Alert

end TelemetryAutomation
