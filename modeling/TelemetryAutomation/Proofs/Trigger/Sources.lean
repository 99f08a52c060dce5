import TelemetryAutomation.Proofs.Catalog.Faithful
import TelemetryAutomation.Proofs.Catalog.Resolution
import TelemetryAutomation.Proofs.Run.Start
import TelemetryAutomation.Proofs.Workflow.NodeCheck

/-!
# Sources of triggers

A trigger that was accepted has a source that the catalog can resolve (`Trigger.Resolves`). With such a
catalog the matches of an accepted graph can always be told, and the branches of a run start at the
triggers that hear the record.
-/

namespace TelemetryAutomation

variable {σ : Type}

/-- Whether a node is a telemetry trigger whose source is the device and topic of a record. -/
def Node.hears (record : TelemetryRecord) (node : Node) : Bool :=
  node.kind? = some .telemetryTrigger &&
    (node.triggerSettings?.bind (·.source)).any fun source =>
      source.device = some record.device && source.topic = some record.topic

namespace Execution

/-- Matches can be told if the parameters that are looked for can be looked up. -/
theorem exists_matchTriggers_of_parameter {catalog : Catalog} {graph : Graph} {record : TelemetryRecord}
    (h : ∀ node ∈ graph.telemetryTriggers, ∀ id, listensTo? node record = some id →
      ∃ found, catalog.parameter id = .ok found) :
    ∃ triggers, matchTriggers catalog graph record = .ok triggers := by
  apply exists_matchTriggers_iff.mpr
  intro node hnode id hasks
  have htrigger : node ∈ graph.telemetryTriggers :=
    List.mem_filter.mpr ⟨hnode, decide_eq_true hasks.kind_eq⟩
  exact h node htrigger id ((asksFor_iff hasks.kind_eq).mp hasks)

end Execution

namespace Trigger

/-- A trigger that waits for events of a source that can be resolved. -/
structure Resolves (catalog : Catalog) (organization : Key .organization) (node : Node)
    (settings : TriggerSettings) (device : Key .device) (topic : Key .topic)
    (parameter : Key .parameter) (source : TriggerSource) : Prop where
  settings_eq : node.triggerSettings? = some settings
  mode_eq : settings.mode = some "event"
  source_eq : settings.source? = some (device, topic, parameter)
  resolved : catalog.resolveTriggerSource organization device topic parameter = .ok source

variable {catalog : Catalog} {query : Option (QueryService σ)} {organization : Key .organization}
  {node : Node} {settings : TriggerSettings} {device : Key .device} {topic : Key .topic}
  {parameter : Key .parameter} {source : TriggerSource} {record : TelemetryRecord}

/-- Accepted triggers are of this kind. -/
theorem resolves_of_checkNode (hkind : node.kind? = some .telemetryTrigger)
    (h : NodeCheck.checkNode catalog query organization node = .ok ()) :
    ∃ settings device topic parameter source,
      Resolves catalog organization node settings device topic parameter source := by
  obtain ⟨settings, hsettings, hcheck⟩ := NodeCheck.triggerSettings_of_checkNode hkind h
  obtain ⟨hmode, device, topic, parameter, source, hsource, hresolved⟩ :=
    NodeCheck.source_of_checkTrigger hcheck
  exact ⟨settings, device, topic, parameter, source, hsettings, hmode, hsource, hresolved⟩

namespace Resolves

theorem hears_iff
    (h : Resolves catalog organization node settings device topic parameter source)
    (hkind : node.kind? = some .telemetryTrigger) :
    node.hears record ↔ device = record.device ∧ topic = record.topic := by
  have hsource := h.source_eq
  rw [TriggerSettings.source?, Option.bind_eq_some_iff] at hsource
  obtain ⟨reference, hreference, hcomplete⟩ := hsource
  simp only [SourceRef.complete?, Option.bind_eq_bind, Option.bind_eq_some_iff] at hcomplete
  obtain ⟨_, hdevice, _, htopic, _, -, ⟨⟩⟩ := hcomplete
  simp [Node.hears, hkind, h.settings_eq, hreference, hdevice, htopic]

/-- The device that it was resolved to has its key, as has the topic. -/
theorem device_eq (h : Resolves catalog organization node settings device topic parameter source)
    (hcatalog : catalog.Faithful) : source.device.id = device :=
  hcatalog.device_id (Catalog.resolveTriggerSource_eq_ok.mp h.resolved).1

theorem topic_eq (h : Resolves catalog organization node settings device topic parameter source)
    (hcatalog : catalog.Faithful) : source.topic.id = topic :=
  hcatalog.topic_id (Catalog.resolveTriggerSource_eq_ok.mp h.resolved).2.2.1

/-- A run looks for the parameter of the source, and only for records of its device and topic. -/
theorem eq_of_listensTo? (h : Resolves catalog organization node settings device topic parameter source)
    {id : Key .parameter} (hlistens : Execution.listensTo? node record = some id) :
    (device, topic, parameter) = (record.device, record.topic, id) := by
  obtain ⟨-, settings', hsettings, hsource⟩ := Execution.listensTo?_eq_some.mp hlistens
  rw [h.settings_eq, Option.some.injEq] at hsettings
  rw [← hsettings, h.source_eq, Option.some.injEq] at hsource
  exact hsource

/-- The catalog finds the parameter that a run looks for. -/
theorem exists_parameter
    (h : Resolves catalog organization node settings device topic parameter source)
    {id : Key .parameter} (hlistens : Execution.listensTo? node record = some id) :
    ∃ found, catalog.parameter id = .ok found := by
  cases h.eq_of_listensTo? hlistens
  obtain ⟨-, -, -, -, -, hparameter, -⟩ := Catalog.resolveTriggerSource_eq_ok.mp h.resolved
  exact ⟨some source.parameter, hparameter⟩

/-- Branches start at it for exactly the records that it hears. -/
theorem startsAt_eq (h : Resolves catalog organization node settings device topic parameter source)
    (hcatalog : catalog.Faithful) (hkind : node.kind? = some .telemetryTrigger)
    (hid : node.id ≠ "") : Execution.startsAt catalog record node = node.hears record := by
  obtain ⟨-, -, -, -, -, hparameter, hof, -⟩ := Catalog.resolveTriggerSource_eq_ok.mp h.resolved
  rw [h.topic_eq hcatalog] at hof
  rw [Bool.eq_iff_iff, h.hears_iff hkind]
  constructor
  · intro hstarts
    rw [Execution.startsAt, Bool.and_eq_true, Option.any_eq_true] at hstarts
    obtain ⟨-, id, hlistens, -⟩ := hstarts
    cases h.eq_of_listensTo? hlistens
    exact ⟨rfl, rfl⟩
  · rintro ⟨rfl, rfl⟩
    have hlistens : Execution.listensTo? node record = some parameter :=
      Execution.listensTo?_eq_some.mpr ⟨hid, settings, h.settings_eq, h.source_eq⟩
    simp [Execution.startsAt, hkind, hlistens, hparameter, hof]

end Resolves

/-! ## Accepted graphs -/

variable {workflow : Workflow} {graph : Graph}

theorem resolves_of_checkNodes (h : graph.checkNodes catalog query workflow = .ok ())
    (hnode : node ∈ graph.telemetryTriggers) :
    node ∈ graph.nodes ∧ node.kind? = some .telemetryTrigger ∧
      ∃ settings device topic parameter source,
        Resolves catalog workflow.organization node settings device topic parameter source := by
  obtain ⟨hmem, hkind⟩ := List.mem_filter.mp hnode
  rw [decide_eq_true_eq] at hkind
  exact ⟨hmem, hkind, resolves_of_checkNode hkind (Success.forM_eq_ok.mp h node hmem)⟩

/-- Nothing keeps the matches of an accepted graph from being told. -/
theorem exists_matchTriggers (h : graph.checkNodes catalog query workflow = .ok ())
    (record : TelemetryRecord) :
    ∃ triggers, Execution.matchTriggers catalog graph record = .ok triggers := by
  apply Execution.exists_matchTriggers_of_parameter
  intro node hnode id hlistens
  obtain ⟨-, -, _, _, _, _, _, hresolves⟩ := resolves_of_checkNodes h hnode
  exact hresolves.exists_parameter hlistens

theorem mem_telemetryTriggers_of_hears (hmem : node ∈ graph.nodes) (hhears : node.hears record) :
    node ∈ graph.telemetryTriggers := by
  rw [Node.hears, Bool.and_eq_true] at hhears
  exact List.mem_filter.mpr ⟨hmem, hhears.1⟩

/-- The device of a record that a trigger hears is known. -/
theorem exists_device_of_hears (h : graph.checkNodes catalog query workflow = .ok ())
    (hmem : node ∈ graph.nodes) (hhears : node.hears record) :
    ∃ device, catalog.device record.device = .ok (some device) := by
  obtain ⟨-, hkind, _, _, _, _, source, hresolves⟩ :=
    resolves_of_checkNodes h (mem_telemetryTriggers_of_hears hmem hhears)
  obtain ⟨rfl, rfl⟩ := (hresolves.hears_iff hkind).mp hhears
  exact ⟨source.device, (Catalog.resolveTriggerSource_eq_ok.mp hresolves.resolved).1⟩

/-- The branches of a run start at the triggers that hear the record. -/
theorem filter_startsAt_eq (hcatalog : catalog.Faithful)
    (h : graph.checkNodes catalog query workflow = .ok ())
    (hids : ∀ node ∈ graph.nodes, node.id ≠ "") :
    graph.nodes.filter (Execution.startsAt catalog record) = graph.nodes.filter (·.hears record) := by
  apply List.filter_congr
  intro node hmem
  by_cases hkind : node.kind? = some .telemetryTrigger
  · have hnode : node ∈ graph.telemetryTriggers := List.mem_filter.mpr ⟨hmem, by simpa using hkind⟩
    obtain ⟨-, -, _, _, _, _, _, hresolves⟩ := resolves_of_checkNodes h hnode
    exact hresolves.startsAt_eq hcatalog hkind (hids node hmem)
  · simp [Execution.startsAt, Node.hears, hkind]

end Trigger

end TelemetryAutomation
