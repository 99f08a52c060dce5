import TelemetryAutomation.Proofs.Graph.Index
import TelemetryAutomation.Proofs.Run.Handing
import TelemetryAutomation.Proofs.Run.Traversal

/-!
# The moments of a run

Every visit of a run starts in the world that the visit before it left. So a run is a trail of moments from
its first world to its last, and whatever it does to the world is done at one of them. Below a trigger a
moment is determined by the path of its visit and the world before it (`Walk.Happens`).

Main result: `Execution.execute_tells`.
-/

namespace TelemetryAutomation

variable {σ : Type}

/-- A visit with the worlds before and after it. -/
structure Moment (σ : Type) where
  visit : Visit
  before : World σ
  after : World σ

/-- Moments that follow one another, from a first world to a last one. -/
inductive Trail : World σ → List (Moment σ) → World σ → Prop
  | nil {world : World σ} : Trail world [] world
  | cons {moment : Moment σ} {rest : List (Moment σ)} {last : World σ}
      (hrest : Trail moment.after rest last) : Trail moment.before (moment :: rest) last

/-- A moment from within: between two readings of the clock something is done at a node, and the visit records
what came of it. -/
structure Moment.Acts (moment : Moment σ) (node : Node) (input : Json) (outcome : Outcome)
    (opened closed : World σ) : Prop where
  opened_eq : Action.now moment.before = (moment.visit.startedAt, opened)
  closed_eq : Action.now closed = (moment.visit.finishedAt, moment.after)
  records : moment.visit.Records node input outcome

namespace Trail

variable {first middle last : World σ} {moments more : List (Moment σ)}

theorem append (h : Trail first moments middle) (h' : Trail middle more last) :
    Trail first (moments ++ more) last := by
  induction h with
  | nil => exact h'
  | cons _ ih => exact .cons (ih h')

end Trail

namespace Walk

variable (services : Services σ) (run : Run) (index : GraphIndex) (trigger : Json) (values : Object)

/-- What happens at the end of a path below a trigger: a node is entered in the context of the path, or
refused if the path is too long. -/
inductive Happens (path : List Visit) (moment : Moment σ) : Prop
  | entered {node : Node} {kind : NodeKind} (hnode : index.node? moment.visit.node = some node)
      (hkind : node.kind? = some kind) (hdepth : path.length < limit services)
      (henter : enter services run node kind (contextOn trigger values path) moment.before =
        ((moment.visit, moment.visit.handedOn? (contextOn trigger values path)), moment.after))
  | refused {node : Node} (hnode : index.node? moment.visit.node = some node)
      (hdepth : limit services ≤ path.length)
      (hrefuse : refuse node (contextOn trigger values path) moment.before =
        (moment.visit, moment.after))

/-- The visits of a list of ids with their worlds. They are those of a forest that has grown from the ids,
they follow one another, and each happens at the end of its path. -/
def Unfolds (path : List Visit) (ids : List NodeId) (first : World σ) (visits : List Visit)
    (last : World σ) : Prop :=
  ∃ forest moments, forest.visits = visits ∧ Grown index ids forest ∧ Trail first moments last ∧
    List.Forall₂ (fun entry moment => moment.visit = entry.2 ∧
      Happens services run index trigger values entry.1 moment) (forest.paths path) moments

theorem visit_acts {node : Node} {input : Json} {act : Action σ Outcome} {moment : Moment σ}
    (hkept : moment.visit = (visit node input act moment.before).1.1)
    (hafter : moment.after = (visit node input act moment.before).2) :
    ∃ outcome opened closed, moment.Acts node input outcome opened closed ∧
      act opened = (outcome, closed) := by
  let opened := (Action.now moment.before).2
  refine ⟨(act opened).1, opened, (act opened).2, ⟨?_, ?_, ?_⟩, rfl⟩
  · rw [hkept]
    rfl
  · rw [hkept, hafter]
    rfl
  · rw [hkept]
    exact ⟨rfl, rfl, rfl, rfl, rfl, rfl⟩

variable {services run index trigger values}

/-- What happens at the end of a path, from within. -/
theorem Happens.acts {path : List Visit} {moment : Moment σ}
    (h : Happens services run index trigger values path moment) :
    ∃ node outcome opened closed, index.node? moment.visit.node = some node ∧
      moment.Acts node (inputOf (contextOn trigger values path)) outcome opened closed ∧
      (outcome = .failed .depthExceeded ∧ closed = opened ∨
        ∃ kind, node.kind? = some kind ∧ path.length < limit services ∧
          node.execute services run kind (contextOn trigger values path) opened =
            (outcome, closed)) := by
  cases h with
  | @refused node hnode hdepth hrefuse =>
    let act : Action σ Outcome := pure (.failed .depthExceeded)
    let input := inputOf (contextOn trigger values path)
    have hkept : (visit node input act moment.before).1.1 = moment.visit := congrArg Prod.fst hrefuse
    have hafter : (visit node input act moment.before).2 = moment.after := congrArg Prod.snd hrefuse
    obtain ⟨outcome, opened, closed, hacts, heq⟩ := visit_acts hkept.symm hafter.symm
    cases heq
    exact ⟨node, _, opened, _, hnode, hacts, .inl ⟨rfl, rfl⟩⟩
  | @entered node kind hnode hkind hdepth henter =>
    rw [enter] at henter
    obtain ⟨outcome, opened, closed, hacts, heq⟩ := visit_acts (by rw [henter]) (by rw [henter])
    exact ⟨node, outcome, opened, closed, hnode, hacts, .inr ⟨kind, hkind, hdepth, heq⟩⟩

theorem unfolds_nil (path : List Visit) (world : World σ) :
    Unfolds services run index trigger values path [] world [] world :=
  ⟨.nil, [], rfl, .nil, .nil, .nil⟩

theorem unfolds_blank {id : NodeId} (hblank : (index.node? id).bind Node.kind? = none)
    (path : List Visit) (world : World σ) :
    Unfolds services run index trigger values path [id] world [] world :=
  ⟨.nil, [], rfl, .blank hblank .nil, .nil, .nil⟩

theorem Unfolds.append {path : List Visit} {ids ids' : List NodeId} {first middle last : World σ}
    {visits visits' : List Visit}
    (h : Unfolds services run index trigger values path ids first visits middle)
    (h' : Unfolds services run index trigger values path ids' middle visits' last) :
    Unfolds services run index trigger values path (ids ++ ids') first (visits ++ visits') last := by
  obtain ⟨forest, moments, rfl, hgrown, htrail, hhappens⟩ := h
  obtain ⟨forest', moments', rfl, hgrown', htrail', hhappens'⟩ := h'
  refine ⟨forest.append forest', moments ++ moments', Forest.visits_append _ _, hgrown.append hgrown',
    htrail.append htrail', ?_⟩
  rw [Forest.paths_append]
  exact List.rel_append hhappens hhappens'

/-- A moment with the visits below it. -/
theorem unfolds_cons {path : List Visit} {id : NodeId} {node : Node} {kind : NodeKind}
    {moment : Moment σ} {visits : List Visit} {last : World σ}
    (hhappens : Happens services run index trigger values path moment)
    (hnode : index.node? id = some node) (hkind : node.kind? = some kind)
    (hid : moment.visit.node = node.id) (htype : moment.visit.nodeType = node.typeName)
    (hbelow : Unfolds services run index trigger values (path ++ [moment.visit])
      (if moment.visit.HandsOn then index.children node.id else []) moment.after visits last) :
    Unfolds services run index trigger values path [id] moment.before (moment.visit :: visits) last := by
  obtain ⟨below, moments, rfl, hgrown, htrail, hbelow⟩ := hbelow
  refine ⟨.cons moment.visit below .nil, moment :: moments, ?_,
    .visit hnode hkind hid htype hgrown .nil, .cons htrail, ?_⟩
  · simp [Forest.visits]
  · rw [Forest.paths, Forest.paths, List.append_nil]
    exact .cons ⟨rfl, hhappens⟩ hbelow

/-- Children that are visited one after the other. -/
theorem mapM_unfolds {path : List Visit} (ids : List NodeId) {act : NodeId → Action σ (List Visit)}
    (h : ∀ id ∈ ids, ∀ world, Unfolds services run index trigger values path [id] world
      (act id world).1 (act id world).2) (world : World σ) :
    Unfolds services run index trigger values path ids world
      (ids.mapM act world).1.flatten (ids.mapM act world).2 := by
  induction ids generalizing world with
  | nil => exact unfolds_nil path world
  | cons id rest ih =>
    obtain ⟨hid, hrest⟩ := List.forall_mem_cons.mp h
    have hfirst := hid world
    have hmore := ih hrest (act id world).2
    rw [List.mapM_cons]
    exact hfirst.append hmore

theorem enter_yields {node : Node} {kind : NodeKind} {context : Context} {property : Outcome → Prop}
    (h : (node.execute services run kind context).Yields property) :
    (enter services run node kind context).Yields fun (kept, next) =>
      ∃ outcome, property outcome ∧ kept.Records node (inputOf context) outcome ∧
        next = outcome.next :=
  visit_yields h

variable (services run) in
/-- Entering a node leads to a visit of it, which shows what is handed on. -/
theorem enter_eq {node : Node} {kind : NodeKind} (hkind : node.kind? = some kind) (context : Context)
    (world : World σ) :
    ∃ visit after, enter services run node kind context world =
        ((visit, visit.handedOn? context), after) ∧
      visit.node = node.id ∧ visit.nodeType = node.typeName := by
  cases hentry : enter services run node kind context world with
  | mk entry after =>
    obtain ⟨entered, next⟩ := entry
    have hvisit := enter_yields (Node.execute_handsOn services run hkind context) world
    rw [hentry] at hvisit
    obtain ⟨outcome, hhands, hrecords, rfl⟩ := hvisit
    rw [hhands entered _ hrecords]
    exact ⟨entered, after, rfl, hrecords.node_eq, hrecords.nodeType_eq⟩

/-- Exploring a node in the context of a path, moment by moment. -/
theorem explore_unfolds (hindex : ∀ id node, index.node? id = some node → node.id = id)
    (remaining : Nat) (id : NodeId) {path : List Visit} {context : Context}
    (hcontext : context = contextOn trigger values path)
    (hdepth : path.length + remaining = limit services) (world : World σ) :
    Unfolds services run index trigger values path [id] world
      (explore services run index remaining id context world).1
      (explore services run index remaining id context world).2 := by
  fun_induction explore services run index remaining id context generalizing path world with
  | case1 _ id context hnode =>
    apply unfolds_blank
    rw [hnode, Option.bind_none]
  | case2 _ id context node hnode hkind =>
    apply unfolds_blank
    rw [hnode, Option.bind_some, hkind]
  | case3 id context node hnode kind hkind =>
    have hrecords := refuse_yields node context world
    let moment : Moment σ := ⟨(refuse node context world).1, world, (refuse node context world).2⟩
    have hends : ¬ moment.visit.HandsOn := fun h => h.1 hrecords.status_eq
    have hown : index.node? moment.visit.node = some node := by
      rw [hrecords.node_eq, hindex id node hnode, hnode]
    have hrefuse : refuse node (contextOn trigger values path) moment.before =
        (moment.visit, moment.after) := by
      rw [← hcontext]
      rfl
    have hbelow : Unfolds services run index trigger values (path ++ [moment.visit])
        (if moment.visit.HandsOn then index.children node.id else []) moment.after [] moment.after := by
      rw [if_neg hends]
      exact unfolds_nil _ _
    have hhappens : Happens services run index trigger values path moment :=
      .refused hown (by omega) hrefuse
    exact unfolds_cons hhappens hnode hkind hrecords.node_eq hrecords.nodeType_eq hbelow
  | case4 id context node hnode kind hkind remaining ih =>
    obtain ⟨entered, after, henter, hid, htype⟩ := enter_eq services run hkind context world
    let moment : Moment σ := ⟨entered, world, after⟩
    have hown : index.node? moment.visit.node = some node := by
      rw [hid, hindex id node hnode, hnode]
    have hhappens : Happens services run index trigger values path moment :=
      .entered hown hkind (by omega) (hcontext ▸ henter)
    simp only [Action.bind_apply, henter]
    by_cases hhands : entered.HandsOn
    · have hnext : entered.below context = contextOn trigger values (path ++ [entered]) := by
        rw [contextOn_concat, hcontext]
      have hlength : (path ++ [entered]).length + remaining = limit services := by
        rw [List.length_append, List.length_singleton]
        omega
      simp only [Visit.handedOn?, if_pos hhands]
      -- the children see the path that this visit has made longer
      have hbelow := mapM_unfolds (index.children node.id)
        (fun child _ => ih (entered.below context) child hnext hlength) after
      refine unfolds_cons hhappens hnode hkind hid htype ?_
      rw [if_pos hhands]
      exact hbelow
    · simp only [Visit.handedOn?, if_neg hhands]
      refine unfolds_cons hhappens hnode hkind hid htype ?_
      rw [if_neg hhands]
      exact unfolds_nil _ _

end Walk

namespace Execution

/-! ## Branches and runs -/

/-- Moments of visits show these visits. -/
theorem map_eq_of_forall₂ {happens : List Visit → Moment σ → Prop} {entries : List (List Visit × Visit)}
    {moments : List (Moment σ)}
    (h : List.Forall₂ (fun entry moment => moment.visit = entry.2 ∧ happens entry.1 moment) entries
      moments) :
    entries.map (·.2) = moments.map Moment.visit := by
  induction h with
  | nil => rfl
  | cons hfirst _ ih => rw [List.map_cons, List.map_cons, hfirst.1, ih]

/-- The branch of a trigger: the moment of the trigger, the forest of the visits below it, and their
moments. -/
structure Branch (σ : Type) where
  started : Moment σ
  forest : Forest
  below : List (Moment σ)

/-- All moments of a branch. -/
def Branch.moments (branch : Branch σ) : List (Moment σ) := branch.started :: branch.below

/-- A branch tells what a run does at a trigger. The trigger is completed with its output, and what happens
below it has grown from its children. -/
structure Branch.Tells (services : Services σ) (run : Run) (index : GraphIndex)
    (record : TelemetryRecord) (trigger : TriggerMatch) (branch : Branch σ) : Prop where
  started_eq : Walk.visit trigger.node (triggerInput record)
      (pure (.completed trigger.output (Context.new trigger.output record.values)))
      branch.started.before =
    ((branch.started.visit, some (Context.new trigger.output record.values)), branch.started.after)
  grown : Grown index (index.children trigger.node.id) branch.forest
  happens : List.Forall₂ (fun entry moment => moment.visit = entry.2 ∧
      Walk.Happens services run index trigger.output record.values entry.1 moment)
    (branch.forest.paths []) branch.below

/-- An execution tells of its branches: there is one for each trigger that matches, they follow one another,
and their visits are the steps of the run. -/
structure Tells (services : Services σ) (run : Run) (version : WorkflowVersion)
    (record : TelemetryRecord) (correlation : CorrelationId) (first : World σ)
    (result : ExecutionResult) (last : World σ) (graph : Graph) (triggers : List TriggerMatch)
    (branches : List (Branch σ)) : Prop where
  readGraph_eq : version.readGraph = .ok graph
  matchTriggers_eq : matchTriggers services.catalog graph record = .ok triggers
  branches_tell : List.Forall₂ (Branch.Tells services run graph.index record) triggers branches
  trail : Trail first (branches.flatMap Branch.moments) last
  steps_eq : result.steps =
    ((branches.flatMap Branch.moments).map Moment.visit).mapIdx (stepOf run correlation)

/-- A trigger does nothing to the world. -/
theorem Branch.Tells.started_acts {services : Services σ} {run : Run} {index : GraphIndex}
    {record : TelemetryRecord} {trigger : TriggerMatch} {branch : Branch σ}
    (h : branch.Tells services run index record trigger) :
    ∃ world, branch.started.Acts trigger.node (triggerInput record)
      (.completed trigger.output (Context.new trigger.output record.values)) world world := by
  obtain ⟨outcome, opened, closed, hacts, heq⟩ :=
    Walk.visit_acts (by rw [h.started_eq]) (by rw [h.started_eq])
  cases heq
  exact ⟨opened, hacts⟩

section

variable {services : Services σ} {run : Run} {version : WorkflowVersion} {record : TelemetryRecord}
  {correlation : CorrelationId} {first last : World σ} {result : ExecutionResult} {graph : Graph}
  {triggers : List TriggerMatch} {branches : List (Branch σ)}

/-- A moment of a run is that of a trigger, or it happens at the end of a path below one. -/
theorem Tells.exists_of_mem
    (h : Tells services run version record correlation first result last graph triggers branches)
    {moment : Moment σ} (hmoment : moment ∈ branches.flatMap Branch.moments) :
    ∃ trigger ∈ triggers, ∃ branch ∈ branches,
      branch.Tells services run graph.index record trigger ∧
      (moment = branch.started ∨ ∃ path, (path, moment.visit) ∈ branch.forest.paths [] ∧
        Walk.Happens services run graph.index trigger.output record.values path moment) := by
  obtain ⟨branch, hbranch, hmoment⟩ := List.mem_flatMap.mp hmoment
  obtain ⟨trigger, htrigger, htells⟩ := Success.exists_item_of_mem h.branches_tell hbranch
  refine ⟨trigger, htrigger, branch, hbranch, htells, ?_⟩
  rcases List.mem_cons.mp hmoment with rfl | hbelow
  · exact .inl rfl
  · obtain ⟨⟨path, visit⟩, hentry, rfl, hhappens⟩ := Success.exists_item_of_mem htells.happens hbelow
    exact .inr ⟨path, hentry, hhappens⟩

/-- The first visit of a branch is that of a telemetry trigger. -/
theorem Tells.kind?_started
    (h : Tells services run version record correlation first result last graph triggers branches)
    {trigger : TriggerMatch} (htrigger : trigger ∈ triggers) {branch : Branch σ}
    (hbranch : branch.Tells services run graph.index record trigger) :
    branch.started.visit.kind? = some .telemetryTrigger := by
  have hnode : trigger.node ∈ graph.nodes.filter (startsAt services.catalog record) := by
    rw [← nodes_matchTriggers h.matchTriggers_eq]
    exact List.mem_map_of_mem htrigger
  have hstarts := (List.mem_filter.mp hnode).2
  rw [startsAt, Bool.and_eq_true] at hstarts
  obtain ⟨world, hacts⟩ := hbranch.started_acts
  rw [hacts.records.kind?_eq]
  exact of_decide_eq_true hstarts.1

end

variable (services : Services σ) (run : Run)

/-- What is visited below a trigger, moment by moment. -/
theorem below_unfolds (graph : Graph) (record : TelemetryRecord) (trigger : TriggerMatch)
    (world : World σ) :
    let below := (graph.index.children trigger.node.id).mapM fun child =>
      Walk.preorder services run graph.index 1 child (Context.new trigger.output record.values)
    Walk.Unfolds services run graph.index trigger.output record.values []
      (graph.index.children trigger.node.id) world (below world).1.flatten (below world).2 := by
  have hindex : ∀ id node, graph.index.node? id = some node → node.id = id := by
    intro id node hnode
    obtain ⟨-, hid, -⟩ := GraphIndex.mem_of_node?_eq_some hnode
    exact hid
  apply Walk.mapM_unfolds
  intro child _ world
  apply Walk.explore_unfolds hindex _ child (contextOn_nil _ _).symm
  simp

theorem branch_tells (graph : Graph) (record : TelemetryRecord) (trigger : TriggerMatch)
    (world : World σ) :
    ∃ branch : Branch σ, branch.Tells services run graph.index record trigger ∧
      Trail world branch.moments (runBranch services run graph.index record trigger world).2 ∧
      branch.moments.map Moment.visit =
        (runBranch services run graph.index record trigger world).1 := by
  let entry := Walk.visit (σ := σ) trigger.node (triggerInput record)
    (pure (.completed trigger.output (Context.new trigger.output record.values))) world
  let started : Moment σ := ⟨entry.1.1, world, entry.2⟩
  obtain ⟨forest, below, hvisits, hgrown, htrail, hhappens⟩ :=
    below_unfolds services run graph record trigger started.after
  have hbelow : below.map Moment.visit = forest.visits := by
    rw [← Forest.map_paths []]
    exact (map_eq_of_forall₂ hhappens).symm
  rw [runBranch_eq_branch]
  refine ⟨⟨started, forest, below⟩, ⟨rfl, hgrown, hhappens⟩, .cons htrail, ?_⟩
  rw [Branch.moments, List.map_cons, hbelow, hvisits]
  rfl

theorem branches_tell (graph : Graph) (record : TelemetryRecord) (triggers : List TriggerMatch)
    (world : World σ) :
    ∃ branches : List (Branch σ),
      List.Forall₂ (Branch.Tells services run graph.index record) triggers branches ∧
      Trail world (branches.flatMap Branch.moments)
        (triggers.mapM (runBranch services run graph.index record) world).2 ∧
      (branches.flatMap Branch.moments).map Moment.visit =
        (triggers.mapM (runBranch services run graph.index record) world).1.flatten := by
  induction triggers generalizing world with
  | nil => exact ⟨[], .nil, .nil, rfl⟩
  | cons trigger rest ih =>
    obtain ⟨branch, htells, htrail, hvisits⟩ := branch_tells services run graph record trigger world
    obtain ⟨branches, htells', htrail', hvisits'⟩ :=
      ih (runBranch services run graph.index record trigger world).2
    refine ⟨branch :: branches, .cons htells htells', ?_, ?_⟩
    · rw [List.flatMap_cons, List.mapM_cons]
      exact htrail.append htrail'
    · rw [List.flatMap_cons, List.map_append, hvisits, hvisits', List.mapM_cons]
      rfl

/-- **A run is a trail of moments.** An execution that cannot start leaves the world as it is. Any other one
tells of its branches. -/
theorem execute_tells (version : WorkflowVersion) (record : TelemetryRecord)
    (correlation : CorrelationId) (world : World σ) :
    (∃ error, execute services run version record correlation world = (.error error, world)) ∨
      ∃ result last graph triggers branches,
        execute services run version record correlation world = (.ok result, last) ∧
        Tells services run version record correlation world result last graph triggers branches := by
  cases hgraph : version.readGraph with
  | error error =>
    refine .inl ⟨.malformedGraph error, ?_⟩
    simp only [execute, hgraph]
    rfl
  | ok graph =>
    cases hmatch : matchTriggers services.catalog graph record with
    | error error =>
      refine .inl ⟨.catalog error, ?_⟩
      simp only [execute, hgraph, hmatch]
      rfl
    | ok triggers =>
      right
      obtain ⟨branches, htells, htrail, hvisits⟩ :=
        branches_tell services run graph record triggers world
      cases triggers with
      | nil =>
        cases htells
        refine ⟨.noMatchingTriggers, world, graph, [], [], ?_, hgraph, hmatch, .nil, .nil, rfl⟩
        simp only [execute, hgraph, hmatch]
        rfl
      | cons trigger rest =>
        have hresult : execute services run version record correlation =
            .ok <$> runBranches services run graph.index record correlation (trigger :: rest) := by
          simp only [execute, hgraph, hmatch]
        refine ⟨_, _, graph, trigger :: rest, branches, congrFun hresult world, hgraph, hmatch, htells,
          htrail, ?_⟩
        rw [hvisits]
        exact ExecutionResult.steps_ofSteps _

end Execution

end TelemetryAutomation
