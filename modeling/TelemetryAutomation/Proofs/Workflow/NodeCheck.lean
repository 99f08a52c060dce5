import TelemetryAutomation.Proofs.Alert.Recipients
import TelemetryAutomation.Proofs.Success
import TelemetryAutomation.Run.Behavior
import TelemetryAutomation.Workflow.NodeCheck

/-!
# What accepted settings say

The settings of a node are checked in one way and used in another. For every kind of node, what the check
accepts is what the node needs: a trigger has a source that can be resolved, a condition has an
expression, a command has a target and a payload, and an alert has texts and recipients.
-/

namespace TelemetryAutomation

open Success (bind_eq_ok forM_eq_ok mapError_eq_ok require_eq_ok)

variable {σ : Type}

namespace NodeCheck

variable {catalog : Catalog} {query : Option (QueryService σ)} {organization : Key .organization}

/-- An accepted trigger waits for events of a source that can be resolved. -/
theorem source_of_checkTrigger {node : NodeId} {settings : TriggerSettings}
    (h : checkTrigger catalog organization node settings = .ok ()) :
    settings.mode = some "event" ∧
      ∃ device topic parameter source, settings.source? = some (device, topic, parameter) ∧
        catalog.resolveTriggerSource organization device topic parameter = .ok source := by
  unfold checkTrigger at h
  obtain ⟨hmode, h⟩ := require_eq_ok.mp h
  split at h
  · next reference hreference =>
    split at h
    · next device topic parameter hcomplete =>
      have hsource : settings.source? = some (device, topic, parameter) := by
        rw [TriggerSettings.source?, hreference]
        exact hcomplete
      split at h
      · next source hresolved => exact ⟨hmode, device, topic, parameter, source, hsource, hresolved⟩
      · contradiction
    · contradiction
  · contradiction

/-- An accepted condition has an expression: the comparison where there is one, else what is stored. -/
theorem expression?_of_checkCondition {node : NodeId} {settings : ConditionSettings}
    (h : checkCondition node settings = .ok ()) : ∃ expression, settings.expression? = some expression := by
  simp only [checkCondition] at h
  split_ifs at h with hguided hstored hsize
  · split at h
    · contradiction
    · next guided hsettings =>
      split at h
      · next expression hcompiled =>
        refine ⟨expression, ?_⟩
        simp [ConditionSettings.expression?, ConditionSettings.guidedExpression?,
          ConditionSettings.isGuided, hguided, hsettings, hcompiled, Except.toOption]
      · contradiction
  · obtain ⟨fields, hfields, hsize⟩ := (Option.any_eq_true ..).mp hsize
    obtain ⟨expression, hexpression, hobj⟩ := Option.bind_eq_some_iff.mp hfields
    have hfilled : fields.isEmpty = false := by
      rw [SortedMap.isEmpty, ← Bool.not_eq_true, List.isEmpty_iff, ← List.length_eq_zero_iff]
      rw [SortedMap.size, decide_eq_true_eq] at hsize
      omega
    refine ⟨expression, ?_⟩
    simp [ConditionSettings.expression?, ConditionSettings.guidedExpression?,
      ConditionSettings.isGuided, hguided, hexpression, hobj, hfilled]

/-- An accepted command has a target that can be resolved and a payload. -/
theorem target_of_checkCommand {node : NodeId} {settings : CommandSettings}
    (h : checkCommand catalog organization node settings = .ok ()) :
    ∃ device topic payload target,
      settings.target.bind TargetRef.complete? = some (device, topic) ∧
        settings.payload = some payload ∧
        catalog.resolveCommandTarget organization device topic = .ok target := by
  unfold checkCommand at h
  obtain ⟨-, h⟩ := require_eq_ok.mp h
  split at h
  · next reference hreference =>
    split at h
    · next device topic hcomplete =>
      split at h
      · next payload hpayload =>
        split at h
        · contradiction
        · next target hresolved =>
          refine ⟨device, topic, payload, target, ?_, hpayload, hresolved⟩
          rw [hreference]
          exact hcomplete
      · contradiction
    · contradiction
  · contradiction

/-- The kinds whose settings are read and checked for what the node does. -/
def kindsWithSettings : List NodeKind := [.telemetryTrigger, .condition, .command, .query]

/-- An accepted node of such a kind has settings, and they pass the check of its kind. -/
theorem settings_of_checkNode {node : Node} {kind : NodeKind} (hkind : node.kind? = some kind)
    (hneeds : kind ∈ kindsWithSettings)
    (h : checkNode catalog query organization node = .ok ()) :
    ∃ fields, node.settings? = some fields ∧
      node.typedSettings? = some (.ofSettings kind fields) ∧
      checkSettings catalog query organization (nodeName node) (.ofSettings kind fields) = .ok () := by
  have htyped : node.typedSettings? = node.settings?.map (.ofSettings kind) := by
    rw [Node.typedSettings?, hkind]
    cases node.settings? <;> rfl
  simp only [checkNode, hkind, htyped] at h
  simp only [kindsWithSettings, List.mem_cons, List.not_mem_nil, or_false] at hneeds
  cases hfields : node.settings? with
  | none =>
    rw [hfields] at h
    rcases hneeds with rfl | rfl | rfl | rfl <;> cases h
  | some fields =>
    rw [hfields] at h
    refine ⟨fields, rfl, by rw [htyped, hfields]; rfl, ?_⟩
    rcases hneeds with rfl | rfl | rfl | rfl <;> exact h

/-- An accepted telemetry trigger has settings that are accepted. -/
theorem triggerSettings_of_checkNode {node : Node} (hkind : node.kind? = some .telemetryTrigger)
    (h : checkNode catalog query organization node = .ok ()) :
    ∃ settings, node.triggerSettings? = some settings ∧
      checkTrigger catalog organization (nodeName node) settings = .ok () := by
  obtain ⟨fields, -, htyped, hsettings⟩ := settings_of_checkNode hkind (by decide) h
  refine ⟨.ofSettings fields, ?_, hsettings⟩
  rw [Node.triggerSettings?, htyped]
  rfl

theorem conditionSettings_of_checkNode {node : Node} (hkind : node.kind? = some .condition)
    (h : checkNode catalog query organization node = .ok ()) :
    checkCondition (nodeName node) node.conditionSettings = .ok () := by
  obtain ⟨fields, -, htyped, hsettings⟩ := settings_of_checkNode hkind (by decide) h
  rw [Node.conditionSettings, htyped]
  exact hsettings

theorem commandSettings_of_checkNode {node : Node} (hkind : node.kind? = some .command)
    (h : checkNode catalog query organization node = .ok ()) :
    checkCommand catalog organization (nodeName node) node.commandSettings = .ok () := by
  obtain ⟨fields, -, htyped, hsettings⟩ := settings_of_checkNode hkind (by decide) h
  rw [Node.commandSettings, htyped]
  exact hsettings

theorem alertSettings_of_checkNode {node : Node} (hkind : node.kind? = some .alert)
    (h : checkNode catalog query organization node = .ok ()) :
    Alert.checkSettings node.settings? = .ok () := by
  simp only [checkNode, hkind] at h
  exact mapError_eq_ok.mp h

end NodeCheck

namespace Alert

theorem text?_of_hasText {settings : Object} {name : String} (h : hasText settings name) :
    ∃ text, settings.text? name = some text := by
  exact Option.isSome_iff_exists.mp (Option.isSome_of_any h)

/-- An accepted alert that is set up for delivery has its texts and at least one recipient. -/
theorem recipients_of_checkSettings {settings : Object}
    (h : checkSettings (some settings) = .ok ()) (hdelivering : isDelivering settings) :
    ∃ subject body first rest, Node.alertTexts? settings = some (subject, body) ∧
      Recipient.resolve (settings.get? "recipients") = .ok (first :: rest) := by
  unfold checkSettings at h
  rw [Option.filter_some, if_pos hdelivering] at h
  obtain ⟨hchannel, h⟩ := require_eq_ok.mp h
  obtain ⟨_, hrecipients, h⟩ := bind_eq_ok.mp h
  obtain ⟨hsubject, h⟩ := require_eq_ok.mp h
  obtain ⟨hbody, -⟩ := require_eq_ok.mp h
  obtain ⟨subject, hsubject⟩ := text?_of_hasText hsubject
  obtain ⟨body, hbody⟩ := text?_of_hasText hbody
  obtain ⟨first, rest, hresolved⟩ := Recipient.resolve_of_checkRecipients hrecipients
  refine ⟨subject, body, first, rest, ?_, hresolved⟩
  rw [Node.alertTexts?, Object.text?, if_pos hchannel, hsubject, hbody]
  rfl

end Alert

end TelemetryAutomation
