import TelemetryAutomation.Proofs.Run.Traversal

/-!
# Runs that cannot start

An execution fails as a whole only before its first node: the stored graph cannot be read, or the catalog does
not answer when the parameter of a trigger is looked up. Which of these it is can be told from the document,
the record and the catalog alone. Faults of nodes and services are steps of a result.

Where it fails, nothing was done. To say so of calls that leave no trace in the outside world, services can be
watched: they note every call beside it.

Main result: `Execution.execute_cannotStart`.
-/

namespace TelemetryAutomation

variable {σ α : Type}

/-! ## Lookups -/

/-- A node asks for a parameter when a record comes in: it is a telemetry trigger with an id, and its source
names the device and the topic of the record. -/
structure Node.AsksFor (record : TelemetryRecord) (node : Node) (id : Key .parameter) : Prop where
  kind_eq : node.kind? = some .telemetryTrigger
  id_ne : node.id ≠ ""
  source_eq : ∃ settings, node.triggerSettings? = some settings ∧
    settings.source? = some (record.device, record.topic, id)

namespace Graph

/-- The catalog has an answer to everything that some nodes ask. -/
def Answered (catalog : Catalog) (record : TelemetryRecord) (nodes : List Node) : Prop :=
  ∀ node ∈ nodes, ∀ id, node.AsksFor record id → ∃ found, catalog.parameter id = .ok found

/-- The first lookup to which the catalog has no answer, in the order of the nodes, fails with an error. -/
def Unanswered (catalog : Catalog) (record : TelemetryRecord) (graph : Graph) (error : CatalogError) :
    Prop :=
  ∃ front node back id, graph.nodes = front ++ node :: back ∧ Answered catalog record front ∧
    node.AsksFor record id ∧ catalog.parameter id = .error error

end Graph

namespace Execution

variable {catalog : Catalog} {record : TelemetryRecord} {node : Node} {graph : Graph}

theorem asksFor_iff (hkind : node.kind? = some .telemetryTrigger) {id : Key .parameter} :
    node.AsksFor record id ↔ listensTo? node record = some id := by
  rw [listensTo?_eq_some]
  exact ⟨fun h => ⟨h.id_ne, h.source_eq⟩, fun ⟨hid, hsource⟩ => ⟨hkind, hid, hsource⟩⟩

/-- Matching a trigger fails where its lookup does. -/
theorem matchTrigger_eq_error (hkind : node.kind? = some .telemetryTrigger) {error : CatalogError} :
    matchTrigger catalog record node = .error error ↔
      ∃ id, node.AsksFor record id ∧ catalog.parameter id = .error error := by
  simp only [asksFor_iff hkind]
  rw [matchTrigger]
  cases hlistens : listensTo? node record with
  | none => simp
  | some id =>
    simp only [Success.bind_eq_error, Option.some.injEq, exists_eq_left']
    constructor
    · rintro (hfails | ⟨found, -, hmatch⟩)
      · exact hfails
      · cases found with
        | none => cases hmatch
        | some parameter =>
          by_cases htopic : parameter.topic = record.topic
          · simp only [if_pos htopic] at hmatch
            cases hmatch
          · simp only [if_neg htopic] at hmatch
            cases hmatch
    · exact .inl

theorem exists_matchTrigger_iff (hkind : node.kind? = some .telemetryTrigger) :
    (∃ found, matchTrigger catalog record node = .ok found) ↔
      ∀ id, node.AsksFor record id → ∃ found, catalog.parameter id = .ok found := by
  simp only [Success.exists_eq_ok_iff, ne_eq, matchTrigger_eq_error hkind, not_exists, not_and]
  exact ⟨fun h id hasks error => h error id hasks, fun h error id hasks => h id hasks error⟩

/-- Matching the triggers of a graph fails at the first lookup without answer. -/
theorem matchTriggers_eq_error {error : CatalogError} :
    matchTriggers catalog graph record = .error error ↔ graph.Unanswered catalog record error := by
  have hfilter : matchTriggers catalog graph record = .error error ↔
      graph.telemetryTriggers.mapM (matchTrigger catalog record) = .error error := by
    rw [matchTriggers, Success.bind_eq_error, or_iff_left]
    rintro ⟨found, -, hfound⟩
    cases hfound
  rw [hfilter, Success.mapM_eq_error, Graph.telemetryTriggers]
  -- nodes that are no triggers may stand between those that are, and ask for nothing
  constructor
  · rintro ⟨front, node, back, hnodes, hfront, hnode⟩
    obtain ⟨before, rest, hgraph, rfl, hrest⟩ := List.filter_eq_append_iff.mp hnodes
    obtain ⟨between, after, rfl, hbetween, hkind, -⟩ := List.filter_eq_cons_iff.mp hrest
    obtain ⟨id, hasks, hfails⟩ := (matchTrigger_eq_error (of_decide_eq_true hkind)).mp hnode
    refine ⟨before ++ between, node, after, id, by rw [hgraph, List.append_assoc], ?_, hasks, hfails⟩
    intro earlier hearlier id hasks
    have hkind := decide_eq_true hasks.kind_eq
    rcases List.mem_append.mp hearlier with hbefore | hmem
    · have hfound := hfront earlier (List.mem_filter.mpr ⟨hbefore, hkind⟩)
      exact (exists_matchTrigger_iff hasks.kind_eq).mp hfound id hasks
    · exact absurd hkind (hbetween earlier hmem)
  · rintro ⟨front, node, back, id, hnodes, hfront, hasks, hfails⟩
    rw [hnodes, List.filter_append, List.filter_cons_of_pos (by exact decide_eq_true hasks.kind_eq)]
    refine ⟨_, node, _, rfl, ?_, (matchTrigger_eq_error hasks.kind_eq).mpr ⟨id, hasks, hfails⟩⟩
    intro earlier hearlier
    obtain ⟨hmem, hkind⟩ := List.mem_filter.mp hearlier
    exact (exists_matchTrigger_iff (of_decide_eq_true hkind)).mpr (hfront earlier hmem)

theorem exists_matchTriggers_iff :
    (∃ triggers, matchTriggers catalog graph record = .ok triggers) ↔
      Graph.Answered catalog record graph.nodes := by
  have hmapM : (∃ triggers, matchTriggers catalog graph record = .ok triggers) ↔
      ∃ found, graph.telemetryTriggers.mapM (matchTrigger catalog record) = .ok found := by
    simp only [matchTriggers, Success.bind_eq_ok]
    constructor
    · rintro ⟨_, found, hfound, -⟩
      exact ⟨found, hfound⟩
    · rintro ⟨found, hfound⟩
      exact ⟨_, found, hfound, rfl⟩
  rw [hmapM, Success.exists_mapM_eq_ok_iff]
  simp only [Graph.telemetryTriggers, List.mem_filter, decide_eq_true_eq]
  constructor
  · intro h node hnode id hasks
    exact (exists_matchTrigger_iff hasks.kind_eq).mp (h node ⟨hnode, hasks.kind_eq⟩) id hasks
  · rintro h node ⟨hnode, hkind⟩
    exact (exists_matchTrigger_iff hkind).mpr (h node hnode)

/-- Some lookup is the first without answer if any lookup has none. -/
theorem exists_unanswered_iff :
    (∃ error, graph.Unanswered catalog record error) ↔
      ∃ node ∈ graph.nodes, ∃ id error, node.AsksFor record id ∧ catalog.parameter id = .error error := by
  have hanswered : (∃ error, graph.Unanswered catalog record error) ↔
      ¬ Graph.Answered catalog record graph.nodes := by
    simp only [← exists_matchTriggers_iff, Success.exists_eq_ok_iff, matchTriggers_eq_error, ne_eq,
      not_forall, not_not]
  rw [hanswered]
  simp only [Graph.Answered, Success.exists_eq_ok_iff, ne_eq, not_forall, not_not, exists_prop]
  exact ⟨fun ⟨node, hnode, id, hasks, error, hfails⟩ => ⟨node, hnode, id, error, hasks, hfails⟩,
    fun ⟨node, hnode, id, error, hasks, hfails⟩ => ⟨node, hnode, id, hasks, error, hfails⟩⟩

end Execution

/-! ## Calls -/

/-- A call of a service. -/
inductive ServiceCall
  | command (device : Device) (topic : Topic) (payload : Object)
  | query (settings : Object)
  | alert (message : AlertMessage)

namespace Services

/-- Acts on the outside world and notes a call. -/
def noting (call : ServiceCall) (act : σ → α × σ) : σ × List ServiceCall → α × (σ × List ServiceCall) :=
  fun (outside, calls) =>
    let (result, outside) := act outside
    (result, outside, calls ++ [call])

/-- The same services, which note the calls that they get. -/
def watched (services : Services σ) : Services (σ × List ServiceCall) where
  catalog := services.catalog
  evaluate := services.evaluate
  dispatch device topic payload user time :=
    noting (.command device topic payload) (services.dispatch device topic payload user time)
  query := services.query.map fun query => {
    check := query.check
    execute := fun run settings context =>
      noting (.query settings) (query.execute run settings context) }
  deliver := services.deliver.map fun deliver message template =>
    noting (.alert message) (deliver message template)
  defaultCooldown := services.defaultCooldown
  maxDepth := services.maxDepth

end Services

namespace Execution

variable (services : Services σ) (run : Run) {version : WorkflowVersion} (correlation : CorrelationId)
  (world : World σ)

theorem execute_of_malformed (record : TelemetryRecord) {error : GraphError}
    (h : Graph.ofJson version.graph = .error error) :
    execute services run version record correlation = pure (.error (.malformedGraph error)) := by
  have hread : version.readGraph = .error error := h
  simp only [execute, hread]

theorem execute_of_unanswered (hgraph : Graph.ofJson version.graph = .ok graph) {error : CatalogError}
    (h : graph.Unanswered services.catalog record error) :
    execute services run version record correlation = pure (.error (.catalog error)) := by
  have hread : version.readGraph = .ok graph := hgraph
  simp only [execute, hread, matchTriggers_eq_error.mpr h]

/-- If every trigger can be looked up, then there is a result, whatever becomes of the nodes. -/
theorem execute_of_answered (hgraph : Graph.ofJson version.graph = .ok graph)
    (h : Graph.Answered services.catalog record graph.nodes) :
    ∃ result last, execute services run version record correlation world = (.ok result, last) := by
  have hread : version.readGraph = .ok graph := hgraph
  obtain ⟨triggers, hmatch⟩ := exists_matchTriggers_iff.mpr h
  cases triggers with
  | nil =>
    refine ⟨.noMatchingTriggers, world, ?_⟩
    simp only [execute, hread, hmatch]
    rfl
  | cons trigger rest =>
    rw [execute_of_match services run version record correlation hread hmatch (List.cons_ne_nil _ _)]
    exact ⟨_, _, rfl⟩

/-- What the answer of an execution tells about the document, the record and the catalog. -/
structure Diagnoses (catalog : Catalog) (version : WorkflowVersion) (record : TelemetryRecord)
    (answer : Except ExecutionError ExecutionResult) : Prop where
  malformed_iff : ∀ error, answer = .error (.malformedGraph error) ↔
    Graph.ofJson version.graph = .error error
  catalog_iff : ∀ error, answer = .error (.catalog error) ↔
    ∃ graph, Graph.ofJson version.graph = .ok graph ∧ graph.Unanswered catalog record error
  exists_catalog_iff : (∃ error, answer = .error (.catalog error)) ↔
    ∃ graph, Graph.ofJson version.graph = .ok graph ∧
      ∃ node ∈ graph.nodes, ∃ id error, node.AsksFor record id ∧ catalog.parameter id = .error error
  ok_iff : (∃ result, answer = .ok result) ↔
    ∃ graph, Graph.ofJson version.graph = .ok graph ∧ Graph.Answered catalog record graph.nodes

/-- An answer tells all this if it tells how reading the document and matching its triggers end. -/
theorem Diagnoses.of_iff {answer : Except ExecutionError ExecutionResult}
    (hmalformed : ∀ error, answer = .error (.malformedGraph error) ↔
      Graph.ofJson version.graph = .error error)
    (hcatalog : ∀ error, answer = .error (.catalog error) ↔
      ∃ graph, Graph.ofJson version.graph = .ok graph ∧ matchTriggers catalog graph record = .error error)
    (hok : (∃ result, answer = .ok result) ↔
      ∃ graph, Graph.ofJson version.graph = .ok graph ∧
        ∃ triggers, matchTriggers catalog graph record = .ok triggers) :
    Diagnoses catalog version record answer where
  malformed_iff := hmalformed
  catalog_iff error := by simp only [hcatalog, matchTriggers_eq_error]
  exists_catalog_iff := by
    simp only [hcatalog, matchTriggers_eq_error, ← exists_unanswered_iff]
    exact ⟨fun ⟨error, graph, hgraph, hfails⟩ => ⟨graph, hgraph, error, hfails⟩,
      fun ⟨graph, hgraph, error, hfails⟩ => ⟨error, graph, hgraph, hfails⟩⟩
  ok_iff := by simp only [hok, exists_matchTriggers_iff]

/-- **An execution fails only before anything happens.** It fails if the document cannot be read, or else if a
lookup of a trigger has no answer, and with the fault of the first such lookup. Otherwise it has a result,
whatever the services do. Where it fails, it fails in every world and leaves the clock, the cooldowns and the
outside world as they are, and no service is called. -/
theorem execute_cannotStart (version : WorkflowVersion) (record : TelemetryRecord) :
    ∃ answer last, execute services run version record correlation world = (answer, last) ∧
      Diagnoses services.catalog version record answer ∧
      ∀ error, answer = .error error → last = world ∧
        (∀ other, execute services run version record correlation other = (.error error, other)) ∧
        ∀ watching : World (σ × List ServiceCall),
          execute services.watched run version record correlation watching = (.error error, watching) := by
  cases hgraph : Graph.ofJson version.graph with
  | error error =>
    have hrun := execute_of_malformed services run correlation record hgraph
    have hwatched := execute_of_malformed services.watched run correlation record hgraph
    refine ⟨.error (.malformedGraph error), world, congrFun hrun world, ?_, ?_⟩
    · apply Diagnoses.of_iff <;> simp [hgraph]
    · rintro _ ⟨⟩
      exact ⟨rfl, congrFun hrun, congrFun hwatched⟩
  | ok graph =>
    cases hmatch : matchTriggers services.catalog graph record with
    | error error =>
      have hfails := matchTriggers_eq_error.mp hmatch
      have hrun := execute_of_unanswered services run correlation hgraph hfails
      have hwatched := execute_of_unanswered services.watched run correlation hgraph hfails
      refine ⟨.error (.catalog error), world, congrFun hrun world, ?_, ?_⟩
      · apply Diagnoses.of_iff <;> simp [hgraph, hmatch]
      · rintro _ ⟨⟩
        exact ⟨rfl, congrFun hrun, congrFun hwatched⟩
    | ok triggers =>
      obtain ⟨result, last, hresult⟩ := execute_of_answered services run correlation world hgraph
        (exists_matchTriggers_iff.mp ⟨triggers, hmatch⟩)
      refine ⟨.ok result, last, hresult, ?_, nofun⟩
      apply Diagnoses.of_iff <;> simp [hgraph, hmatch]

end Execution

end TelemetryAutomation
