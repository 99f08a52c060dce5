import Mathlib.Data.List.Chain
import TelemetryAutomation.Proofs.Run.Commands
import TelemetryAutomation.Proofs.Run.Journal

/-!
# Commands to which a run is entitled

Whatever the graph and the catalog, a run hands a command over only to a device of its own organization, on a
topic to the device that belongs to the schema version of the device. And it does so only at a command node
that it has reached: a route of visits leads there from a trigger that matches, along edges, and each visit
before the last has handed its context on.
-/

namespace TelemetryAutomation

variable {σ : Type}

/-! ## Routes -/

/-- One visit leads to another: it hands its context on, and an edge leads from its node to the other one. -/
def Visit.LeadsTo (graph : Graph) (earlier later : Visit) : Prop :=
  earlier.HandsOn ∧
    ∃ edge ∈ graph.edges, edge.source? = some earlier.node ∧ edge.target? = some later.node

/-- The path to a visit in a forest is made up of visits of the forest, in their order. -/
theorem Forest.sublist_of_mem_paths {forest : Forest} {above path : List Visit} {visit : Visit}
    (h : (path, visit) ∈ forest.paths above) :
    ∃ below, path = above ++ below ∧ (below ++ [visit]).Sublist forest.visits := by
  induction forest generalizing above with
  | nil => cases h
  | cons first below rest ihBelow ihRest =>
    rw [paths, List.mem_cons, List.mem_append] at h
    rw [visits]
    rcases h with heq | hbelow | hrest
    · cases heq
      exact ⟨[], (List.append_nil _).symm, List.singleton_sublist.mpr List.mem_cons_self⟩
    · obtain ⟨more, rfl, hsublist⟩ := ihBelow hbelow
      refine ⟨first :: more, by simp, ?_⟩
      rw [List.cons_append]
      exact (hsublist.trans (List.sublist_append_left _ _)).cons_cons first
    · obtain ⟨more, rfl, hsublist⟩ := ihRest hrest
      exact ⟨more, rfl, (hsublist.trans (List.sublist_append_right _ _)).cons first⟩

/-- If the ids are those to which a route leads, then routes lead to all visits of a forest grown from
them. -/
theorem Grown.isChain {graph : Graph} {ids : List NodeId} {forest : Forest}
    (h : Grown graph.index ids forest) (route : List Visit) {above : List Visit}
    (hids : ∀ id ∈ ids, ∀ visit : Visit, visit.node = id →
      (route ++ above ++ [visit]).IsChain (Visit.LeadsTo graph)) {path : List Visit} {visit : Visit}
    (hentry : (path, visit) ∈ forest.paths above) :
    (route ++ path ++ [visit]).IsChain (Visit.LeadsTo graph) := by
  induction h generalizing above with
  | nil => cases hentry
  | blank _ _ ih => exact ih (List.forall_mem_cons.mp hids).2 hentry
  | @visit id ids node kind first below rest hnode _ hid _ _ _ ihBelow ihRest =>
    obtain ⟨hfirst, hrest⟩ := List.forall_mem_cons.mp hids
    obtain ⟨-, hnodeId, -⟩ := GraphIndex.mem_of_node?_eq_some hnode
    have hchain := hfirst first (hid.trans hnodeId)
    rw [Forest.paths, List.mem_cons, List.mem_append] at hentry
    rcases hentry with heq | hbelow | hmore
    · cases heq
      exact hchain
    · -- the route goes on to a child only if this visit hands its context on
      refine ihBelow ?_ hbelow
      intro child hchild later hlater
      split at hchild
      · next hhands =>
        obtain ⟨edge, hedge, hsource, htarget⟩ := GraphIndex.exists_edge_of_mem_children hchild
        have hleads : first.LeadsTo graph later :=
          ⟨hhands, edge, hedge, by rw [hid]; exact hsource, by rw [hlater]; exact htarget⟩
        have happend : route ++ (above ++ [first]) ++ [later] =
            route ++ above ++ first :: later :: [] := by simp
        rw [happend, List.isChain_append_cons_cons]
        exact ⟨hchain, hleads, List.isChain_singleton later⟩
      · cases hchild
    · exact ihRest hrest hmore

/-- A visit of a run is reached: a route of visits leads to it, from that of a trigger that matches. -/
structure Execution.Reaches (graph : Graph) (record : TelemetryRecord) (triggers : List TriggerMatch)
    (visits : List Visit) (started : Visit) (path : List Visit) (visit : Visit) : Prop where
  starts : ∃ trigger ∈ triggers, started.Records trigger.node (triggerInput record)
    (.completed trigger.output (Context.new trigger.output record.values))
  visited : (started :: path ++ [visit]).Sublist visits
  leads : (started :: path ++ [visit]).IsChain (Visit.LeadsTo graph)

namespace Execution

variable {services : Services σ} {run : Run} {version : WorkflowVersion} {record : TelemetryRecord}
  {correlation : CorrelationId} {first last : World σ} {result : ExecutionResult} {graph : Graph}
  {triggers : List TriggerMatch} {branches : List (Branch σ)}

/-- To every entry of the forest of a branch leads a route. -/
theorem Tells.reaches
    (h : Tells services run version record correlation first result last graph triggers branches)
    {trigger : TriggerMatch} (htrigger : trigger ∈ triggers) {branch : Branch σ}
    (hbranch : branch ∈ branches) (htells : branch.Tells services run graph.index record trigger)
    {path : List Visit} {visit : Visit} (hentry : (path, visit) ∈ branch.forest.paths []) :
    Reaches graph record triggers ((branches.flatMap Branch.moments).map Moment.visit)
      branch.started.visit path visit := by
  obtain ⟨world, hacts⟩ := htells.started_acts
  refine ⟨⟨trigger, htrigger, hacts.records⟩, ?_, ?_⟩
  · obtain ⟨below, rfl, hsublist⟩ := Forest.sublist_of_mem_paths hentry
    have hvisits : branch.moments.map Moment.visit = branch.started.visit :: branch.forest.visits := by
      rw [Branch.moments, List.map_cons, ← Forest.map_paths [], ← map_eq_of_forall₂ htells.happens]
    have hmoments : (branch.moments.map Moment.visit).Sublist
        ((branches.flatMap Branch.moments).map Moment.visit) :=
      (List.sublist_flatten_of_mem (List.mem_map_of_mem hbranch)).map _
    refine List.Sublist.trans ?_ hmoments
    rw [hvisits]
    exact hsublist.cons_cons _
  · have hhands : branch.started.visit.HandsOn := by
      refine ⟨?_, ?_⟩
      · rw [hacts.records.status_eq]
        intro hstatus
        cases hstatus
      · rw [h.kind?_started htrigger htells]
        intro hkind
        cases hkind
    refine htells.grown.isChain [branch.started.visit] ?_ hentry
    intro id hid later hlater
    obtain ⟨edge, hedge, hsource, htarget⟩ := GraphIndex.exists_edge_of_mem_children hid
    have hleads : branch.started.visit.LeadsTo graph later := by
      refine ⟨hhands, edge, hedge, ?_, ?_⟩
      · rw [hacts.records.node_eq]
        exact hsource
      · rw [hlater]
        exact htarget
    exact List.isChain_pair.mpr hleads

end Execution

/-! ## Entitlement -/

/-- The device of a command belongs to an organization and runs a schema version, and the topic leads to the
device and belongs to this schema version. -/
structure Dispatched.IsEntitled (organization : Key .organization) (command : Dispatched) : Prop where
  organization_eq : command.device.organization = organization
  schemaVersion_eq : command.device.schemaVersion = some command.topic.schemaVersion
  direction_eq : command.topic.direction = .subscribe

/-- Services with a journal list the commands that they are handed, whatever the answer. -/
theorem Services.journaled_lists (services : Services σ) :
    services.journaled.Lists Prod.snd fun target payload _ added =>
      added = [⟨target.device, target.topic, payload⟩] where
  dispatch target payload user time world := ⟨[⟨target.device, target.topic, payload⟩], rfl, rfl⟩
  query := by
    intro query hquery run settings context world
    obtain ⟨query, -, rfl⟩ := Option.map_eq_some_iff.mp hquery
    exact (List.append_nil _).symm
  deliver := by
    intro deliver hdeliver message template world
    obtain ⟨deliver, -, rfl⟩ := Option.map_eq_some_iff.mp hdeliver
    exact (List.append_nil _).symm

theorem CommandSettings.Resolves.isEntitled {catalog : Catalog} {organization : Key .organization}
    {settings : CommandSettings} {target : CommandTarget} {payload : Object}
    (h : settings.Resolves catalog organization target payload) :
    Dispatched.IsEntitled organization ⟨target.device, target.topic, payload⟩ := by
  obtain ⟨device, topic, -, hresolved⟩ := h.target_eq
  obtain ⟨-, horganization, -, hversion, hdirection⟩ :=
    Catalog.resolveCommandTarget_eq_ok.mp hresolved
  exact ⟨horganization, hversion, hdirection⟩

namespace Execution

/-- A command of a run: the run is entitled to it, and it has the payload of a command node that is reached
no deeper than nodes are executed. -/
structure Sends (services : Services σ) (run : Run) (graph : Graph) (record : TelemetryRecord)
    (triggers : List TriggerMatch) (visits : List Visit) (command : Dispatched) : Prop where
  entitled : command.IsEntitled run.organization
  reached : ∃ started path visit node,
    Reaches graph record triggers visits started path visit ∧
    path.length + 1 ≤ Walk.limit services ∧
    graph.index.node? visit.node = some node ∧ node.kind? = some .command ∧
    node.commandSettings.payload = some command.payload

/-- What a moment adds to the journal is a command of the run. -/
theorem Tells.sends {services : Services σ} {run : Run} {version : WorkflowVersion}
    {record : TelemetryRecord} {correlation : CorrelationId} {first last : World (σ × List Dispatched)}
    {result : ExecutionResult} {graph : Graph} {triggers : List TriggerMatch}
    {branches : List (Branch (σ × List Dispatched))}
    (h : Tells services.journaled run version record correlation first result last graph triggers
      branches) :
    ∃ sent, last.outside.2 = first.outside.2 ++ sent ∧
      ∀ command ∈ sent, Sends services run graph record triggers
        ((branches.flatMap Branch.moments).map Moment.visit) command := by
  obtain ⟨added, hadded, hmoments⟩ := h.trail.accounts (.list (·.outside.2)) fun moment hmoment =>
    services.journaled_lists.of_mem h hmoment
  refine ⟨added.flatten, hadded, ?_⟩
  intro command hcommand
  obtain ⟨commands, hcommands, hcommand⟩ := List.mem_flatten.mp hcommand
  obtain ⟨moment, -, hadds, hreached⟩ := Success.exists_item_of_mem hmoments hcommands
  obtain ⟨trigger, htrigger, branch, hbranch, htold, path, hpath, hdepth⟩ :=
    hreached (List.ne_nil_of_mem hcommand)
  cases hadds with
  | nothing => cases hcommand
  | command hhands hmade =>
    subst hmade
    obtain rfl := List.mem_singleton.mp hcommand
    obtain ⟨node, hnode, hkind, hresolves⟩ := hhands.resolves
    exact ⟨hresolves.isEntitled, branch.started.visit, path, moment.visit, node,
      h.reaches htrigger hbranch htold hpath, hdepth, hnode, hkind, hresolves.payload_eq⟩

/-- **A run sends only the commands to which it is entitled.** Services that keep a journal of the commands
that they are handed do the same as without it. Each command in it goes to a device of the organization of the
run, on a topic to the device that belongs to its schema version, and it carries the payload of a command node
to which the run has come from a trigger that matches. A run that cannot start sends nothing. -/
theorem execute_sends_entitled (services : Services σ) (run : Run) (version : WorkflowVersion)
    (record : TelemetryRecord) (correlation : CorrelationId) (world : World σ)
    (journal : List Dispatched) :
    ∃ answer last sent,
      execute services run version record correlation world = (answer, last) ∧
      execute services.journaled run version record correlation (world.withJournal journal) =
        (answer, last.withJournal (journal ++ sent)) ∧
      match answer with
      | .ok result => ∃ graph triggers visits,
          version.readGraph = .ok graph ∧
          matchTriggers services.catalog graph record = .ok triggers ∧
          result.steps = visits.mapIdx (stepOf run correlation) ∧
          ∀ command ∈ sent, Sends services run graph record triggers visits command
      | .error _ => sent = [] := by
  obtain ⟨sent, -, hjournaled⟩ :=
    execute_journals services run version record correlation world journal
  cases hexecute : execute services run version record correlation world with
  | mk answer last =>
    rw [hexecute] at hjournaled
    refine ⟨answer, last, sent, rfl, hjournaled, ?_⟩
    rcases execute_tells services.journaled run version record correlation
        (world.withJournal journal) with
      ⟨error, heq⟩ | ⟨result, last', graph, triggers, branches, heq, htells⟩
    · rw [heq, Prod.mk.injEq] at hjournaled
      obtain ⟨rfl, hlast⟩ := hjournaled
      have hsent : journal = journal ++ sent := congrArg (·.outside.2) hlast
      exact List.self_eq_append_right.mp hsent
    · rw [heq, Prod.mk.injEq] at hjournaled
      obtain ⟨rfl, rfl⟩ := hjournaled
      obtain ⟨sent', hsent', hsends⟩ := htells.sends
      obtain rfl : sent = sent' := List.append_cancel_left hsent'
      exact ⟨graph, triggers, _, htells.readGraph_eq, htells.matchTriggers_eq, htells.steps_eq, hsends⟩

end Execution

end TelemetryAutomation
