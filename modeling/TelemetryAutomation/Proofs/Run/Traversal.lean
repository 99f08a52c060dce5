import Mathlib.Data.Option.Basic
import TelemetryAutomation.Proofs.Run.Visits
import TelemetryAutomation.Proofs.Success

/-!
# The walk is a traversal in preorder

`Walk.walk` keeps the nodes that are still to come on a stack. Here it is shown to do what the recursion
`Walk.explore` does, in the same order and on the same world: a stack stands for the explorations of its
frames, one after the other (`walk_eq_preorder`). So a node that ends its branch takes nothing away but
what is below it, and the frames behind it are still visited.
-/

namespace TelemetryAutomation

variable {σ : Type}

namespace Walk

/-- Executes a node that comes up at a depth, and everything below it. -/
def preorder (services : Services σ) (run : Run) (index : GraphIndex) (depth : Nat) (id : NodeId)
    (context : Context) : Action σ (List Visit) :=
  explore services run index (limit services + 1 - depth) id context

variable (services : Services σ) (run : Run) (index : GraphIndex)

/-- The recursion in terms of depths. A node without type is passed over, one that is too deep is
refused, and any other is followed by its children if it hands on a context. -/
theorem preorder_eq (depth : Nat) (id : NodeId) (context : Context) :
    preorder services run index depth id context =
      match index.node? id with
      | none => pure []
      | some node =>
        match node.kind? with
        | none => pure []
        | some kind =>
          if limit services < depth then return [← refuse node context]
          else do
            let (entered, next) ← enter services run node kind context
            match next with
            | none => return [entered]
            | some next =>
              let below ← (index.children node.id).mapM fun child =>
                preorder services run index (depth + 1) child next
              return entered :: below.flatten := by
  have hexplore (remaining : Nat) := explore.eq_def services run index remaining id context
  unfold preorder
  cases hnode : index.node? id with
  | none =>
    simp only [hnode] at hexplore ⊢
    exact hexplore _
  | some node =>
    cases hkind : node.kind? with
    | none =>
      simp only [hnode, hkind] at hexplore ⊢
      exact hexplore _
    | some kind =>
      simp only [hnode, hkind] at hexplore ⊢
      -- no level remains exactly when the depth has passed the limit
      by_cases hdepth : limit services < depth
      · have hzero : limit services + 1 - depth = 0 := by omega
        rw [hzero, if_pos hdepth]
        exact hexplore 0
      · obtain ⟨remaining, hremaining⟩ : ∃ n, limit services + 1 - depth = n + 1 :=
          ⟨limit services - depth, by omega⟩
        have hbelow : limit services + 1 - (depth + 1) = remaining := by omega
        rw [hremaining, hbelow, if_neg hdepth]
        apply (hexplore (remaining + 1)).trans
        refine congrArg (enter services run node kind context >>= ·) (funext fun entry => ?_)
        cases entry.2 with
        | none => rfl
        | some next => rfl

/-- A stack stands for what its frames lead to, one after the other. -/
theorem walk_eq_preorder (stack : List Frame) :
    walk services run index stack = List.flatten <$> stack.mapM fun frame =>
      preorder services run index frame.depth frame.node frame.context := by
  fun_induction walk services run index stack with
  | case1 => simp
  | case2 frame rest hnode ih =>
    rw [ih, List.mapM_cons, preorder_eq, hnode]
    simp
  | case3 frame rest node hnode hkind ih =>
    rw [ih, List.mapM_cons, preorder_eq, hnode]
    simp [hkind]
  | case4 frame rest node hnode kind hkind hdepth ih =>
    rw [ih, List.mapM_cons, preorder_eq, hnode]
    simp [hkind, hdepth]
  | case5 frame rest node hnode kind hkind hdepth ihSkip ihBelow =>
    rw [List.mapM_cons, preorder_eq, hnode]
    simp only [hkind, if_neg hdepth, bind_assoc, map_bind]
    apply bind_congr
    intro entry
    obtain ⟨entered, next⟩ := entry
    cases next with
    | none =>
      rw [ihSkip]
      simp
    | some next =>
      -- the children stand in front of the stack, as what they lead to stands in front of the rest
      dsimp only
      rw [ihBelow next, List.mapM_append, childFrames, List.mapM_map]
      simp [Function.comp_def]

end Walk

namespace Execution

/-! ## Triggers -/

/-- A node listens to a record if it has an id and its source names the device and topic. -/
theorem listensTo?_eq_some {node : Node} {record : TelemetryRecord} {id : Key .parameter} :
    listensTo? node record = some id ↔
      node.id ≠ "" ∧ ∃ settings, node.triggerSettings? = some settings ∧
        settings.source? = some (record.device, record.topic, id) := by
  simp only [listensTo?, Option.bind_eq_bind, Option.bind_eq_some_iff, Unique.exists_iff,
    Option.guard_eq_some']
  constructor
  · rintro ⟨hid, settings, hsettings, ⟨device, topic, parameter⟩, hsource, hscope, ⟨⟩⟩
    simp only [Bool.and_eq_true, decide_eq_true_eq] at hscope
    obtain ⟨rfl, rfl⟩ := hscope
    exact ⟨by simpa using hid, settings, hsettings, hsource⟩
  · rintro ⟨hid, settings, hsettings, hsource⟩
    exact ⟨by simpa using hid, settings, hsettings, _, hsource, by simp, rfl⟩

/-- Whether a branch starts at a node: it is a telemetry trigger that listens to the record, and its
parameter belongs to the topic of the record. -/
def startsAt (catalog : Catalog) (record : TelemetryRecord) (node : Node) : Bool :=
  node.kind? = some .telemetryTrigger &&
    (listensTo? node record).any fun id =>
      match catalog.parameter id with
      | .ok (some parameter) => parameter.topic = record.topic
      | _ => false

theorem node_matchTrigger {catalog : Catalog} {record : TelemetryRecord} {node : Node}
    {found : Option TriggerMatch} (hkind : node.kind? = some .telemetryTrigger)
    (h : matchTrigger catalog record node = .ok found) :
    found.map (·.node) = if startsAt catalog record node then some node else none := by
  rw [matchTrigger] at h
  cases hlistens : listensTo? node record with
  | none =>
    rw [hlistens] at h
    cases h
    simp [startsAt, hlistens]
  | some id =>
    simp only [hlistens, Success.bind_eq_ok] at h
    obtain ⟨parameter, hparameter, h⟩ := h
    cases parameter with
    | none =>
      cases h
      simp [startsAt, hlistens, hparameter]
    | some parameter =>
      by_cases htopic : parameter.topic = record.topic
      · simp only [if_pos htopic] at h
        cases h
        simp [startsAt, hkind, hlistens, hparameter, htopic]
      · simp only [if_neg htopic] at h
        cases h
        simp [startsAt, hlistens, hparameter, htopic]

/-- The matches are the nodes at which branches start, in the order of the nodes. -/
theorem nodes_matchTriggers {catalog : Catalog} {graph : Graph} {record : TelemetryRecord}
    {triggers : List TriggerMatch} (h : matchTriggers catalog graph record = .ok triggers) :
    triggers.map (·.node) = graph.nodes.filter (startsAt catalog record) := by
  rw [matchTriggers, Success.bind_eq_ok] at h
  obtain ⟨found, hfound, h⟩ := h
  cases h
  have hnodes : graph.nodes.filter (startsAt catalog record) =
      graph.telemetryTriggers.filter (startsAt catalog record) := by
    rw [Graph.telemetryTriggers, List.filter_filter]
    apply List.filter_congr
    intro node _
    rw [startsAt]
    cases decide (node.kind? = some .telemetryTrigger) <;> simp
  have hkind : ∀ node ∈ graph.telemetryTriggers, node.kind? = some .telemetryTrigger := by
    intro node hnode
    simpa using (List.mem_filter.mp hnode).2
  rw [hnodes]
  generalize graph.telemetryTriggers = nodes at hfound hkind
  induction Success.mapM_eq_ok.mp hfound with
  | nil => rfl
  | @cons node match? nodes found hnode hrest ih =>
    have hhead := node_matchTrigger (hkind node List.mem_cons_self) hnode
    have htail := ih (Success.mapM_eq_ok.mpr hrest) fun node hnode =>
      hkind node (List.mem_cons_of_mem _ hnode)
    rw [List.filter_cons]
    cases match? with
    | none =>
      by_cases hstarts : startsAt catalog record node
      · simp [hstarts] at hhead
      · simpa [hstarts] using htail
    | some trigger =>
      by_cases hstarts : startsAt catalog record node
      · simp only [hstarts, if_true, Option.map_some, Option.some.injEq] at hhead
        simpa [hstarts, hhead] using htail
      · simp [hstarts] at hhead

/-! ## Whole runs -/

variable (services : Services σ) (run : Run)

/-- The branch of a trigger: its own step, then what each of its children leads to. -/
def branch (index : GraphIndex) (record : TelemetryRecord) (trigger : TriggerMatch) :
    Action σ (List Visit) := do
  let context := Context.new trigger.output record.values
  let (started, _) ← Walk.visit trigger.node (triggerInput record)
    (pure (.completed trigger.output context))
  let below ← (index.children trigger.node.id).mapM fun child =>
    Walk.preorder services run index 1 child context
  return started :: below.flatten

theorem runBranch_eq_branch (index : GraphIndex) (record : TelemetryRecord) (trigger : TriggerMatch) :
    runBranch services run index record trigger = branch services run index record trigger := by
  rw [runBranch, branch]
  apply bind_congr
  intro entry
  rw [Walk.walk_eq_preorder, Walk.childFrames, List.mapM_map]
  simp [Function.comp_def]

/-- An execution with matching triggers consists of their branches. -/
theorem execute_of_match (services : Services σ) (run : Run) (version : WorkflowVersion)
    (record : TelemetryRecord) (correlation : CorrelationId) {graph : Graph}
    {triggers : List TriggerMatch} (hgraph : version.readGraph = .ok graph)
    (hmatch : matchTriggers services.catalog graph record = .ok triggers) (hsome : triggers ≠ []) :
    execute services run version record correlation =
      (fun branches => .ok (.ofSteps (branches.flatten.mapIdx (stepOf run correlation)))) <$>
        triggers.mapM (branch services run graph.index record) := by
  have hbranches : execute services run version record correlation =
      .ok <$> runBranches services run graph.index record correlation triggers := by
    obtain ⟨first, rest, rfl⟩ := List.exists_cons_of_ne_nil hsome
    simp only [execute, hgraph, hmatch]
  have hbranch : runBranch services run graph.index record =
      branch services run graph.index record :=
    funext (runBranch_eq_branch services run graph.index record)
  rw [hbranches, runBranches, hbranch]
  simp

/-- **A run visits the graph in preorder.** If triggers of the graph match the record, their branches
are executed in the order of the nodes, and each one is the trigger followed by the recursion
`Walk.preorder` from each of its children. The world is handed on in just this order. The run fails if
and only if one of its steps failed. -/
theorem execute_eq_preorder (services : Services σ) (run : Run) (version : WorkflowVersion)
    (record : TelemetryRecord) (correlation : CorrelationId) {graph : Graph}
    {triggers : List TriggerMatch} (hgraph : version.readGraph = .ok graph)
    (hmatch : matchTriggers services.catalog graph record = .ok triggers) (hsome : triggers ≠ [])
    (world : World σ) :
    triggers.map (·.node) = graph.nodes.filter (startsAt services.catalog record) ∧
      ∃ branches after result,
        triggers.mapM (branch services run graph.index record) world = (branches, after) ∧
        execute services run version record correlation world = (.ok result, after) ∧
        result.steps = branches.flatten.mapIdx (stepOf run correlation) ∧
        result.status =
          if ∃ step ∈ result.steps, step.status = .failed then .failed else .completed := by
  refine ⟨nodes_matchTriggers hmatch, ?_⟩
  cases hbranches : triggers.mapM (branch services run graph.index record) world with
  | mk branches after =>
    let steps := branches.flatten.mapIdx (stepOf run correlation)
    refine ⟨branches, after, .ofSteps steps, rfl, ?_, ExecutionResult.steps_ofSteps steps, ?_⟩
    · rw [execute_of_match services run version record correlation hgraph hmatch hsome,
        Action.map_apply, hbranches]
    · rw [ExecutionResult.steps_ofSteps]
      exact ExecutionResult.status_ofSteps steps

end Execution

/-! ## A looping graph

A meter sets off a node that leads back to itself. Walks through it end at the depth to which nodes are
executed. -/

namespace Sample

/-- A meter that sends its power and takes commands. -/
def meter : Device := ⟨⟨1⟩, ⟨1⟩, ⟨1⟩, some ⟨1⟩, "meter"⟩

/-- The readings of the meter. -/
def readings : Topic := ⟨⟨1⟩, ⟨1⟩, "readings", "up", .publish⟩

/-- The commands to the meter. -/
def orders : Topic := ⟨⟨2⟩, ⟨1⟩, "orders", "down", .subscribe⟩

/-- The power in the readings. -/
def power : Parameter :=
  ⟨⟨1⟩, ⟨1⟩, "power", "$.power", .integer, true, none, ⟨none, none, none⟩, true⟩

/-- An inventory of the meter. -/
def inventory : Inventory := .ofSnapshot ⟨[meter], [readings, orders], [power]⟩

/-- A reading of the meter. -/
def record : TelemetryRecord := ⟨⟨1⟩, ⟨1⟩, ⟨1⟩, .ofList [("power", .ofInt64 7)], ⟨0, 0⟩⟩

/-- A trigger that listens to the readings. -/
def listener : Node :=
  .new "meter" "telemetry-trigger" <| .object [
    ("mode", .str "event"),
    ("source", .object [
      ("device_id", .ofInt64 1),
      ("topic_id", .ofInt64 1),
      ("parameter_definition_id", .ofInt64 1)])]

/-- A trigger in front of a node that leads back to itself. -/
def loop : Graph :=
  .new [listener, .new "again" "schedule-trigger" .null]
    [.new "first" "meter" "again", .new "next" "again" "again"]

/-- The version of a graph. -/
def versionOf (graph : Graph) : WorkflowVersion := .new ⟨1⟩ ⟨1⟩ 1 graph ⟨0, 0⟩

/-- A run of the version. -/
def run : Run := .start ⟨1⟩ ⟨⟨1⟩, ⟨1⟩, ⟨1⟩, "telemetry", .null⟩ ⟨0, 0⟩

/-- The world at the beginning. -/
def world : World Recorder := ⟨.still 0, .empty, .empty⟩

/-- The services of the recorder. -/
def services : Services Recorder := Recorder.services inventory.catalog

/-- The trigger that the record sets off. -/
def triggers : List TriggerMatch := [⟨listener, Execution.triggerOutput power record⟩]

end Sample

namespace Execution

theorem execute_loop :
    (Sample.versionOf Sample.loop).readGraph = .ok Sample.loop ∧
      matchTriggers Sample.services.catalog Sample.loop Sample.record = .ok Sample.triggers ∧
      Sample.triggers ≠ [] ∧
      ∃ branches after result,
        Sample.triggers.mapM
          (branch Sample.services Sample.run Sample.loop.index Sample.record) Sample.world =
            (branches, after) ∧
        execute Sample.services Sample.run (Sample.versionOf Sample.loop) Sample.record ⟨0⟩
          Sample.world = (.ok result, after) ∧
        result.steps = branches.flatten.mapIdx (stepOf Sample.run ⟨0⟩) := by
  have hgraph : (Sample.versionOf Sample.loop).readGraph = .ok Sample.loop := rfl
  have hmatch : matchTriggers Sample.services.catalog Sample.loop Sample.record =
      .ok Sample.triggers := rfl
  have hsome : Sample.triggers ≠ [] := List.cons_ne_nil _ _
  obtain ⟨-, branches, after, result, hbranches, hresult, hsteps, -⟩ :=
    execute_eq_preorder Sample.services Sample.run (Sample.versionOf Sample.loop) Sample.record ⟨0⟩
      hgraph hmatch hsome Sample.world
  exact ⟨hgraph, hmatch, hsome, branches, after, result, hbranches, hresult, hsteps⟩

end Execution

end TelemetryAutomation
