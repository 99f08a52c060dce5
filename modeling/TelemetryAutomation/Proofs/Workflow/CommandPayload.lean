import TelemetryAutomation.Proofs.Catalog.Payload
import TelemetryAutomation.Proofs.Catalog.Resolution
import TelemetryAutomation.Proofs.Graph.Settings
import TelemetryAutomation.Proofs.Run.Traversal
import TelemetryAutomation.Proofs.Workflow.NodeCheck

/-!
# Commands with admitted payloads

A command is accepted if its target can be resolved and its payload suits the topic of the target. Once the
target is known, nothing but the payload decides, and a payload that does not suit is refused with the keys
that are at fault.

* `NodeCheck.checkCommand_eq_ok_iff`, `NodeCheck.checkCommand_eq_error`: one command, for every catalog
* `NodeCheck.checkNode_of_targets`: a node of a graph is checked like its settings
* `NodeCheck.payload_checked`: **what an available inventory says of payloads, of command nodes and of
  graphs**
-/

namespace TelemetryAutomation

variable {σ : Type}

/-- A command node with settings that name a target, and the target that the catalog finds for them. -/
structure Node.Targets (catalog : Catalog) (organization : Key .organization) (node : Node)
    (settings : Object) (target : CommandTarget) : Prop where
  kind_eq : node.kind? = some .command
  settings_eq : node.settings? = some settings
  resolves : ∃ reference device topic, settings.get? "target" = some (.obj reference) ∧
    (TargetRef.ofSettings reference).complete? = some (device, topic) ∧
    catalog.resolveCommandTarget organization device topic = .ok target

namespace NodeCheck

variable {catalog : Catalog} {organization : Key .organization} {query : Option (QueryService σ)}
  {name : NodeId} {command : CommandSettings} {target : CommandTarget}

/-! ## One command -/

/-- What is left to check of a command whose target is known. -/
theorem checkCommand_of_target {device : Key .device} {topic : Key .topic}
    (hcomplete : command.target.bind TargetRef.complete? = some (device, topic))
    (hresolved : catalog.resolveCommandTarget organization device topic = .ok target) :
    checkCommand catalog organization name command =
      if command.payloadMode = some "schema_form" then
        match command.payload with
        | none => .error (.commandPayload name "must define a payload object" [])
        | some payload =>
          match catalog.violations target.topic payload with
          | .error error => .error (.catalogUnavailable error)
          | .ok violations =>
            if violations.isEmpty then .ok ()
            else .error (.commandPayload name "has invalid payload values" violations.keys)
      else .error (.commandPayload name "must use schema_form payload mode" []) := by
  obtain ⟨reference, hreference, hcomplete⟩ := Option.bind_eq_some_iff.mp hcomplete
  unfold checkCommand
  by_cases hmode : command.payloadMode = some "schema_form"
  · rw [if_pos hmode, if_pos hmode, hreference]
    simp only [hcomplete]
    cases command.payload with
    | none => rfl
    | some payload =>
      simp only [hresolved]
      cases catalog.violations target.topic payload <;> rfl
  · rw [if_neg hmode, if_neg hmode]
    rfl

/-- A command whose target is known is accepted if it has a payload with nothing wrong. -/
theorem checkCommand_eq_ok_iff {device : Key .device} {topic : Key .topic}
    (hcomplete : command.target.bind TargetRef.complete? = some (device, topic))
    (hresolved : catalog.resolveCommandTarget organization device topic = .ok target) :
    checkCommand catalog organization name command = .ok () ↔
      command.payloadMode = some "schema_form" ∧ ∃ payload, command.payload = some payload ∧
        catalog.violations target.topic payload = .ok ∅ := by
  rw [checkCommand_of_target hcomplete hresolved]
  by_cases hmode : command.payloadMode = some "schema_form"
  · rw [if_pos hmode]
    cases command.payload with
    | none => simp
    | some payload =>
      cases hviolations : catalog.violations target.topic payload with
      | error error => simp [hviolations]
      | ok violations => simp [hmode, hviolations, SortedMap.isEmpty_iff]
  · simp [hmode]

/-- A payload with something wrong is refused with the keys that are at fault. -/
theorem checkCommand_eq_error {device : Key .device} {topic : Key .topic} {payload : Object}
    {violations : SortedMap String Violation}
    (hcomplete : command.target.bind TargetRef.complete? = some (device, topic))
    (hresolved : catalog.resolveCommandTarget organization device topic = .ok target)
    (hmode : command.payloadMode = some "schema_form") (hpayload : command.payload = some payload)
    (hviolations : catalog.violations target.topic payload = .ok violations)
    (hsome : violations ≠ ∅) :
    checkCommand catalog organization name command =
      .error (.commandPayload name "has invalid payload values" violations.keys) := by
  have hfilled : ¬ violations.isEmpty := fun h => hsome (SortedMap.isEmpty_iff.mp h)
  rw [checkCommand_of_target hcomplete hresolved, if_pos hmode, hpayload]
  simp only [hviolations]
  rw [if_neg hfilled]

/-! ## Command nodes -/

section

variable {node : Node} {settings payload : Object}

theorem checkNode_of_targets (h : node.Targets catalog organization settings target) :
    checkNode catalog query organization node =
      checkCommand catalog organization (nodeName node) (.ofSettings settings) := by
  have htyped : node.typedSettings? = some (.command (.ofSettings settings)) := by
    rw [Node.typedSettings?, h.kind_eq, h.settings_eq]
    rfl
  simp only [checkNode, h.kind_eq, htyped, checkSettings]

theorem complete?_of_targets (h : node.Targets catalog organization settings target) :
    ∃ device topic,
      (CommandSettings.ofSettings settings).target.bind TargetRef.complete? = some (device, topic) ∧
        catalog.resolveCommandTarget organization device topic = .ok target := by
  obtain ⟨reference, device, topic, hreference, hcomplete, hresolved⟩ := h.resolves
  refine ⟨device, topic, ?_, hresolved⟩
  rw [CommandSettings.ofSettings, Object.object?_eq_some_iff.mpr hreference]
  exact hcomplete

/-- An accepted command node has a target that the catalog finds. -/
theorem targets_of_checkNode (hkind : node.kind? = some .command)
    (h : checkNode catalog query organization node = .ok ()) :
    ∃ settings target, node.Targets catalog organization settings target := by
  obtain ⟨settings, hsettings, -, hchecked⟩ := settings_of_checkNode hkind (by decide) h
  obtain ⟨device, topic, -, target, hcomplete, -, hresolved⟩ := target_of_checkCommand hchecked
  obtain ⟨reference, hreference, hcomplete⟩ := Option.bind_eq_some_iff.mp hcomplete
  obtain ⟨fields, hfields, rfl⟩ := Option.map_eq_some_iff.mp hreference
  exact ⟨settings, target, hkind, hsettings, fields, device, topic,
    Object.object?_eq_some_iff.mp hfields, hcomplete, hresolved⟩

variable {inventory : Inventory}

/-- An available inventory finds nothing wrong with the payloads that it admits. -/
theorem violations_eq_empty_iff (h : inventory.unavailable = none) {topic : Topic} :
    inventory.catalog.violations topic payload = .ok ∅ ↔ inventory.Admits topic.id payload := by
  obtain ⟨violations, hviolations, hkeys⟩ := inventory.mem_keys_violations h topic payload
  rw [hviolations, Except.ok.injEq, Inventory.admits_iff, ← SortedMap.isEmpty_iff, SortedMap.isEmpty,
    List.isEmpty_iff, List.eq_nil_iff_forall_not_mem]
  exact forall_congr' fun key => not_congr (hkeys key)

theorem checkNode_eq_ok_iff (havailable : inventory.unavailable = none)
    (h : node.Targets inventory.catalog organization settings target) :
    checkNode inventory.catalog query organization node = .ok () ↔
      settings.get? "payload_mode" = some (.str "schema_form") ∧
        ∃ payload, settings.get? "payload" = some (.obj payload) ∧
          inventory.Admits target.topic.id payload := by
  obtain ⟨device, topic, hcomplete, hresolved⟩ := complete?_of_targets h
  rw [checkNode_of_targets h, checkCommand_eq_ok_iff hcomplete hresolved]
  simp only [CommandSettings.ofSettings, Object.text?_eq_some_iff, Object.object?_eq_some_iff,
    violations_eq_empty_iff havailable]

theorem checkNode_eq_error (havailable : inventory.unavailable = none)
    (h : node.Targets inventory.catalog organization settings target)
    (hmode : settings.get? "payload_mode" = some (.str "schema_form"))
    (hpayload : settings.get? "payload" = some (.obj payload))
    (hrefused : ¬ inventory.Admits target.topic.id payload) :
    ∃ keys, checkNode inventory.catalog query organization node =
        .error (.commandPayload (nodeName node) "has invalid payload values" keys) ∧
      keys.Pairwise (· < ·) ∧ ∀ key, key ∈ keys ↔ inventory.IsFaulty target.topic.id payload key := by
  obtain ⟨device, topic, hcomplete, hresolved⟩ := complete?_of_targets h
  obtain ⟨violations, hviolations, hkeys⟩ :=
    inventory.mem_keys_violations havailable target.topic payload
  have hsome : violations ≠ ∅ := by
    rintro rfl
    exact hrefused ((violations_eq_empty_iff havailable).mp hviolations)
  refine ⟨violations.keys, ?_, violations.keys_pairwise_lt, hkeys⟩
  rw [checkNode_of_targets h]
  exact checkCommand_eq_error hcomplete hresolved (Object.text?_eq_some_iff.mpr hmode)
    (Object.object?_eq_some_iff.mpr hpayload) hviolations hsome

end

/-- **An available inventory checks payloads exactly.** The keys that it reports are those of the active
parameters of the topic that take a value which does not pass. A command node whose target it finds is
accepted if and only if its mode is that of forms and its payload an object that the topic admits; if only
the payload is not admitted, then the error lists the faulty keys in ascending order, each once. So every
command of an accepted graph has a target and a payload that the topic of the target admits. -/
theorem payload_checked (inventory : Inventory) (h : inventory.unavailable = none)
    (query : Option (QueryService σ)) (workflow : Workflow) :
    (∀ (topic : Topic) (payload : Object), ∃ violations,
      inventory.catalog.violations topic payload = .ok violations ∧
        ∀ key, key ∈ violations.keys ↔ inventory.IsFaulty topic.id payload key) ∧
    (∀ (node : Node) (settings : Object) (target : CommandTarget),
      node.Targets inventory.catalog workflow.organization settings target →
        (checkNode inventory.catalog query workflow.organization node = .ok () ↔
          settings.get? "payload_mode" = some (.str "schema_form") ∧
            ∃ payload, settings.get? "payload" = some (.obj payload) ∧
              inventory.Admits target.topic.id payload) ∧
        ∀ payload, settings.get? "payload_mode" = some (.str "schema_form") →
          settings.get? "payload" = some (.obj payload) →
          ¬ inventory.Admits target.topic.id payload →
            ∃ keys, checkNode inventory.catalog query workflow.organization node =
                .error (.commandPayload (nodeName node) "has invalid payload values" keys) ∧
              keys.Pairwise (· < ·) ∧
              ∀ key, key ∈ keys ↔ inventory.IsFaulty target.topic.id payload key) ∧
    ∀ graph : Graph, graph.checkNodes inventory.catalog query workflow = .ok () →
      ∀ node ∈ graph.nodes, node.kind? = some .command →
        ∃ settings target payload,
          node.Targets inventory.catalog workflow.organization settings target ∧
          settings.get? "payload_mode" = some (.str "schema_form") ∧
          settings.get? "payload" = some (.obj payload) ∧
          inventory.Admits target.topic.id payload := by
  refine ⟨inventory.mem_keys_violations h, ?_, ?_⟩
  · intro node settings target htargets
    refine ⟨checkNode_eq_ok_iff h htargets, ?_⟩
    intro payload hmode hpayload hrefused
    exact checkNode_eq_error h htargets hmode hpayload hrefused
  · intro graph hgraph node hnode hkind
    have hchecked := Success.forM_eq_ok.mp hgraph node hnode
    obtain ⟨settings, target, htargets⟩ := targets_of_checkNode hkind hchecked
    obtain ⟨hmode, payload, hpayload, hadmits⟩ := (checkNode_eq_ok_iff h htargets).mp hchecked
    exact ⟨settings, target, payload, htargets, hmode, hpayload, hadmits⟩

end NodeCheck

/-! ## A command with two faulty values

The commands to the meter have a level, for which there are two parameters, a state with a default and a
retired note. -/

namespace Sample

/-- A parameter of the commands. -/
def orderParameter (id : Key .parameter) (key : String) (dataType : DataType)
    (defaultValue : Option Json) (isActive : Bool) : Parameter :=
  ⟨id, ⟨2⟩, key, "$." ++ key, dataType, true, defaultValue, ⟨none, none, none⟩, isActive⟩

/-- The inventory of the meter with parameters of its commands. -/
def stock : Inventory := .ofSnapshot ⟨[meter], [readings, orders], [power,
  orderParameter ⟨2⟩ "level" .integer none true, orderParameter ⟨3⟩ "level" .string none true,
  orderParameter ⟨4⟩ "state" .string (some (.str "on")) true,
  orderParameter ⟨5⟩ "note" .string none false]⟩

/-- The level is a number, which one of its parameters refuses, and the state is `null`, for which the
default does not step in. -/
def levels : Object := .ofList [("extra", .ofInt64 1), ("level", .ofInt64 7), ("state", .null)]

/-- The settings of a command with these values. -/
def regulation : Object := .ofList [
  ("payload_mode", .str "schema_form"),
  ("target", .object [("device_id", .ofInt64 1), ("topic_id", .ofInt64 2)]),
  ("payload", .obj levels)]

/-- A node that gives the command. -/
def regulator : Node := .new "regulator" "command" (.obj regulation)

/-- The workflow of the node. -/
def regulating : Workflow := .new ⟨1⟩ ⟨1⟩ "regulating"

theorem regulator_targets :
    regulator.Targets stock.catalog ⟨1⟩ regulation ⟨meter, orders⟩ := by
  refine ⟨by rfl, by rfl, ?_⟩
  exact ⟨.ofList [("device_id", .ofInt64 1), ("topic_id", .ofInt64 2)], ⟨1⟩, ⟨2⟩, by rfl, by rfl, by rfl⟩

theorem not_admits_levels : ¬ stock.Admits orders.id levels := by
  intro h
  have hcarries : stock.Carries orders.id (orderParameter ⟨3⟩ "level" .string none true) :=
    ⟨⟨⟨3⟩, by rfl⟩, rfl, rfl⟩
  have htakes : (orderParameter ⟨3⟩ "level" .string none true).Takes levels (some (.ofInt64 7)) :=
    .given (by rfl)
  have hcheck := h _ hcarries _ htakes
  cases hcheck

end Sample

namespace NodeCheck

theorem payload_checked_regulator :
    Sample.stock.unavailable = none ∧
      Sample.regulator.Targets Sample.stock.catalog Sample.regulating.organization Sample.regulation
        ⟨Sample.meter, Sample.orders⟩ ∧
      ∃ keys, checkNode Sample.stock.catalog (σ := Unit) none Sample.regulating.organization
          Sample.regulator =
          .error (.commandPayload "regulator" "has invalid payload values" keys) ∧
        keys.Pairwise (· < ·) ∧
        ∀ key, key ∈ keys ↔ Sample.stock.IsFaulty Sample.orders.id Sample.levels key := by
  have havailable : Sample.stock.unavailable = none := rfl
  obtain ⟨-, hnodes, -⟩ :=
    payload_checked (σ := Unit) Sample.stock havailable none Sample.regulating
  obtain ⟨-, herror⟩ := hnodes Sample.regulator Sample.regulation _ Sample.regulator_targets
  exact ⟨havailable, Sample.regulator_targets,
    herror Sample.levels (by rfl) (by rfl) Sample.not_admits_levels⟩

end NodeCheck

example : NodeCheck.checkNode Sample.stock.catalog (σ := Unit) none ⟨1⟩ Sample.regulator =
    .error (.commandPayload "regulator" "has invalid payload values" ["level", "state"]) := by rfl

end TelemetryAutomation
