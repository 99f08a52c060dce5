import TelemetryAutomation.Proofs.Trigger.Rows

/-!
# What each stage asks of a trigger

The source of a telemetry trigger is looked at three times: when its graph is published, when its row is
compiled, and when a run looks for the triggers that a record sets off. The first two stages follow the whole
reference through the catalog, and they agree. A run looks at the parameter only, so it starts branches at
triggers that the other stages refuse: it does not ask whose device it is, what the topic is for, whether the
parameter is still active, or whether the trigger waits for events at all.
-/

namespace TelemetryAutomation

variable {σ : Type}

/-- A catalog that answers whatever it is asked about the source of a trigger. -/
structure Catalog.Available (catalog : Catalog) : Prop where
  device : ∀ id, ∃ found, catalog.device id = .ok found
  topic : ∀ id, ∃ found, catalog.topic id = .ok found
  parameter : ∀ id, ∃ found, catalog.parameter id = .ok found

theorem Inventory.Orderly.available {inventory : Inventory} (h : inventory.Orderly) :
    inventory.catalog.Available :=
  ⟨fun _ => ⟨_, h.answer _⟩, fun _ => ⟨_, h.answer _⟩, fun _ => ⟨_, h.answer _⟩⟩

namespace Execution

/-- A run starts a branch at a node: the node is that of a match, and the matches are where the branches of a
run start. -/
def StartsBranch (catalog : Catalog) (graph : Graph) (record : TelemetryRecord) (node : Node) : Prop :=
  ∃ triggers, matchTriggers catalog graph record = .ok triggers ∧ ∃ trigger ∈ triggers, trigger.node = node

/-- Whether a branch starts at a node of a graph does not depend on the rest of the graph. -/
theorem startsBranch_iff {catalog : Catalog} (h : catalog.Available) {graph : Graph}
    {record : TelemetryRecord} {node : Node} (hmem : node ∈ graph.nodes) :
    StartsBranch catalog graph record node ↔ startsAt catalog record node := by
  obtain ⟨triggers, hmatch⟩ : ∃ triggers, matchTriggers catalog graph record = .ok triggers :=
    exists_matchTriggers_of_parameter fun _ _ id _ => h.parameter id
  have hnodes := nodes_matchTriggers hmatch
  have hstarts : node ∈ triggers.map (·.node) ↔ startsAt catalog record node := by
    rw [hnodes, List.mem_filter]
    exact and_iff_right hmem
  rw [← hstarts, List.mem_map, StartsBranch, hmatch]
  simp

end Execution

namespace Trigger

variable {catalog : Catalog} {query : Option (QueryService σ)} {organization : Key .organization}
  {version : Key .workflowVersion} {node : Node} {record : TelemetryRecord} {graph : Graph}

/-! ## Publishing and compiling -/

/-- A trigger is accepted exactly if its source can be resolved. -/
theorem checkNode_iff_resolves (hkind : node.kind? = some .telemetryTrigger) :
    NodeCheck.checkNode catalog query organization node = .ok () ↔
      ∃ settings device topic parameter source,
        Resolves catalog organization node settings device topic parameter source := by
  refine ⟨resolves_of_checkNode hkind, ?_⟩
  rintro ⟨settings, device, topic, parameter, source, h⟩
  have htyped : node.typedSettings? = some (.telemetryTrigger settings) := by
    have hsettings := h.settings_eq
    rw [Node.triggerSettings?] at hsettings
    split at hsettings
    · next hfound =>
      rw [hfound]
      cases hsettings
      rfl
    · cases hsettings
  obtain ⟨reference, hreference, hcomplete⟩ := Option.bind_eq_some_iff.mp h.source_eq
  simp [NodeCheck.checkNode, hkind, htyped, NodeCheck.checkSettings, NodeCheck.checkTrigger, h.mode_eq,
    hreference, hcomplete, h.resolved, pure, Except.pure]

/-- A trigger has a row exactly if its source can be resolved. -/
theorem row?_iff_resolves :
    (∃ row, row? catalog organization version node = .ok (some row)) ↔
      ∃ settings device topic parameter source,
        Resolves catalog organization node settings device topic parameter source := by
  constructor
  · rintro ⟨row, hrow⟩
    unfold row? at hrow
    split at hrow
    · cases hrow
    · next device topic parameter hevent =>
      split at hrow
      · next source hresolved =>
        obtain ⟨settings, hsettings, hmode, hsource⟩ := eventSource?_eq_some.mp hevent
        exact ⟨settings, device, topic, parameter, source, hsettings, hmode, hsource, hresolved⟩
      · cases hrow
      · cases hrow
  · rintro ⟨settings, device, topic, parameter, source, h⟩
    exact ⟨_, h.row?_eq⟩

/-! ## Running -/

/-- What a run takes for granted about a trigger that listens to a record: it waits for events, the device is of
the organization, the topic is a publish topic of the schema version that the device runs, and the parameter
is active. -/
structure Entitled (catalog : Catalog) (organization : Key .organization) (node : Node)
    (record : TelemetryRecord) : Prop where
  mode : ∃ settings, node.triggerSettings? = some settings ∧ settings.mode = some "event"
  source : ∃ device topic, catalog.device record.device = .ok (some device) ∧
    device.organization = organization ∧ catalog.topic record.topic = .ok (some topic) ∧
      device.schemaVersion = some topic.schemaVersion ∧ topic.direction = .publish
  active : ∀ id parameter, Execution.listensTo? node record = some id →
    catalog.parameter id = .ok (some parameter) → parameter.isActive

/-- A run starts a branch at a trigger if the parameter is there and belongs to the topic of the record. -/
theorem startsAt_iff (hkind : node.kind? = some .telemetryTrigger) :
    Execution.startsAt catalog record node ↔
      ∃ id parameter, Execution.listensTo? node record = some id ∧
        catalog.parameter id = .ok (some parameter) ∧ parameter.topic = record.topic := by
  rw [Execution.startsAt, Bool.and_eq_true, Option.any_eq_true]
  constructor
  · rintro ⟨-, id, hlistens, hfound⟩
    split at hfound
    · next parameter hparameter =>
      exact ⟨id, parameter, hlistens, hparameter, of_decide_eq_true hfound⟩
    · cases hfound
  · rintro ⟨id, parameter, hlistens, hparameter, htopic⟩
    refine ⟨decide_eq_true hkind, id, hlistens, ?_⟩
    simp [hparameter, htopic]

/-- A source can be resolved if a branch starts at the trigger and what the run takes for granted is so. -/
theorem resolves_iff_startsAt (hcatalog : catalog.Faithful) (hid : node.id ≠ "")
    (hhears : node.hears record) :
    (∃ settings device topic parameter source,
        Resolves catalog organization node settings device topic parameter source) ↔
      Execution.startsAt catalog record node ∧ Entitled catalog organization node record := by
  have hkind : node.kind? = some .telemetryTrigger := by
    rw [Node.hears, Bool.and_eq_true] at hhears
    exact of_decide_eq_true hhears.1
  constructor
  · rintro ⟨settings, _, _, id, source, h⟩
    obtain ⟨rfl, rfl⟩ := (h.hears_iff hkind).mp hhears
    obtain ⟨hdevice, horganization, htopic, hversion, hdirection, hparameter, -, hactive⟩ :=
      Catalog.resolveTriggerSource_eq_ok.mp h.resolved
    refine ⟨?_, ⟨settings, h.settings_eq, h.mode_eq⟩, ?_, ?_⟩
    · rw [h.startsAt_eq hcatalog hkind hid]
      exact hhears
    · exact ⟨source.device, source.topic, hdevice, horganization, htopic, hversion, hdirection⟩
    · intro id' parameter hlistens hfound
      cases h.eq_of_listensTo? hlistens
      rw [hparameter, Except.ok.injEq, Option.some.injEq] at hfound
      rw [← hfound]
      exact hactive
  · rintro ⟨hstarts, ⟨settings, hsettings, hmode⟩, ⟨device, topic, hdevice, horganization, htopic,
      hversion, hdirection⟩, hactive⟩
    obtain ⟨id, parameter, hlistens, hparameter, hof⟩ := (startsAt_iff hkind).mp hstarts
    obtain ⟨-, settings', hsettings', hsource⟩ := Execution.listensTo?_eq_some.mp hlistens
    obtain rfl : settings = settings' := Option.some.inj (hsettings.symm.trans hsettings')
    refine ⟨settings, record.device, record.topic, id, ⟨device, topic, parameter⟩, hsettings, hmode,
      hsource, ?_⟩
    -- the run compares the parameter with the topic's key, the resolution with the topic itself
    rw [← hcatalog.topic_id htopic] at hof
    exact Catalog.resolveTriggerSource_eq_ok.mpr ⟨hdevice, horganization, htopic, hversion, hdirection,
      hparameter, hof, hactive id parameter hlistens hparameter⟩

/-- **What is accepted has a row, and a run starts more than that.** A trigger that hears a record is accepted
exactly if it has a row. It is accepted exactly if a run starts a branch at it and what the run takes for
granted is so; and the run only asks for the parameter and whether it belongs to the topic of the record. -/
theorem accepted_iff_row (hcatalog : catalog.Faithful) (havailable : catalog.Available)
    (query : Option (QueryService σ)) (organization : Key .organization)
    (version : Key .workflowVersion) (hid : node.id ≠ "") (hhears : node.hears record)
    (hmem : node ∈ graph.nodes) :
    (NodeCheck.checkNode catalog query organization node = .ok () ↔
        ∃ row, row? catalog organization version node = .ok (some row)) ∧
      (NodeCheck.checkNode catalog query organization node = .ok () ↔
        Execution.StartsBranch catalog graph record node ∧
          Entitled catalog organization node record) ∧
      (Execution.StartsBranch catalog graph record node ↔
        ∃ id parameter, Execution.listensTo? node record = some id ∧
          catalog.parameter id = .ok (some parameter) ∧ parameter.topic = record.topic) := by
  have hkind : node.kind? = some .telemetryTrigger := by
    rw [Node.hears, Bool.and_eq_true] at hhears
    exact of_decide_eq_true hhears.1
  rw [checkNode_iff_resolves hkind, row?_iff_resolves, Execution.startsBranch_iff havailable hmem]
  exact ⟨Iff.rfl, resolves_iff_startsAt hcatalog hid hhears, startsAt_iff hkind⟩

end Trigger

/-! ## A device of another organization -/

namespace Sample

/-- The inventory with the meter in the hands of another organization. -/
def foreignInventory : Inventory :=
  .ofSnapshot ⟨[{ meter with organization := ⟨2⟩ }], [readings, orders], [power]⟩

/-- A graph of the trigger alone. -/
def lone : Graph := .new [listener] []

end Sample

namespace Trigger

theorem accepted_listener :
    Sample.inventory.catalog.Faithful ∧ Sample.inventory.catalog.Available ∧
      Sample.listener.id ≠ "" ∧ Sample.listener.hears Sample.record ∧
      Sample.listener ∈ Sample.lone.nodes ∧
      (NodeCheck.checkNode Sample.inventory.catalog Sample.services.query ⟨1⟩ Sample.listener = .ok () ↔
        ∃ row, row? Sample.inventory.catalog ⟨1⟩ ⟨1⟩ Sample.listener = .ok (some row)) ∧
      (NodeCheck.checkNode Sample.inventory.catalog Sample.services.query ⟨1⟩ Sample.listener = .ok () ↔
        Execution.StartsBranch Sample.inventory.catalog Sample.lone Sample.record Sample.listener ∧
          Entitled Sample.inventory.catalog ⟨1⟩ Sample.listener Sample.record) ∧
      (Execution.StartsBranch Sample.inventory.catalog Sample.lone Sample.record Sample.listener ↔
        ∃ id parameter, Execution.listensTo? Sample.listener Sample.record = some id ∧
          Sample.inventory.catalog.parameter id = .ok (some parameter) ∧
            parameter.topic = Sample.record.topic) := by
  have horderly : Sample.inventory.Orderly := Inventory.orderly_ofSnapshot _
  have hhears : Sample.listener.hears Sample.record := by decide +kernel
  have hmem : Sample.listener ∈ Sample.lone.nodes := List.mem_singleton_self _
  exact ⟨horderly.faithful, horderly.available, by decide, hhears, hmem,
    accepted_iff_row horderly.faithful horderly.available Sample.services.query ⟨1⟩ ⟨1⟩ (by decide)
      hhears hmem⟩

/-- A run of an organization starts a branch at a trigger on the device of another one, although the trigger
would not be accepted and has no row. -/
theorem startsBranch_foreign :
    Sample.foreignInventory.catalog.Available ∧ Sample.listener.id ≠ "" ∧
      Sample.listener.hears Sample.record ∧ Sample.listener ∈ Sample.lone.nodes ∧
      NodeCheck.checkNode Sample.foreignInventory.catalog Sample.services.query ⟨1⟩ Sample.listener =
        .error (.triggerSource "meter" "references an invalid source device") ∧
      row? Sample.foreignInventory.catalog ⟨1⟩ ⟨1⟩ Sample.listener = .ok none ∧
      Execution.StartsBranch Sample.foreignInventory.catalog Sample.lone Sample.record
        Sample.listener := by
  have horderly : Sample.foreignInventory.Orderly := Inventory.orderly_ofSnapshot _
  have hmem : Sample.listener ∈ Sample.lone.nodes := List.mem_singleton_self _
  refine ⟨horderly.available, by decide, by decide +kernel, hmem, by decide +kernel, by decide +kernel, ?_⟩
  rw [Execution.startsBranch_iff horderly.available hmem]
  decide +kernel

end Trigger

end TelemetryAutomation
