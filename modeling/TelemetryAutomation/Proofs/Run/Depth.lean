import Mathlib.Data.List.Chain
import Mathlib.Data.List.Nodup
import TelemetryAutomation.Proofs.Graph.WellFormed
import TelemetryAutomation.Proofs.Run.Contexts
import TelemetryAutomation.Proofs.Run.Turns

/-!
# How deep walks go

The check of a graph looks at the list of its edges, and the walk at the index that was built from it. The two
meet in paths: the frames that a walk takes one below the other follow edges of the graph, so in a graph that
was accepted no such path comes back to a node. It cannot have more nodes than the graph, and neither can a
frame be deeper.

Main result: `execute_of_checkStructure`. A limit that a graph cannot reach is never what fails a step.
-/

namespace TelemetryAutomation

variable {σ : Type}

namespace Graph

/-! ## Paths in well-formed graphs -/

theorem leads_of_mem_children {graph : Graph} {source target : NodeId}
    (h : target ∈ graph.index.children source) : graph.Leads source target := by
  obtain ⟨edge, hedge, hsource, htarget⟩ := GraphIndex.exists_edge_of_mem_children h
  rw [Edge.source?, Option.ite_none_left_eq_some, Option.some.injEq] at hsource
  rw [Edge.target?, Option.ite_none_left_eq_some, Option.some.injEq] at htarget
  exact ⟨edge, hedge, hsource.2, htarget.2⟩

namespace WellFormed

variable {graph : Graph}

theorem nodup_of_isChain (h : graph.WellFormed) {path : List NodeId}
    (hpath : path.IsChain graph.Leads) : path.Nodup := by
  have : Std.Irrefl (Relation.TransGen graph.Leads) := ⟨h.acyclic⟩
  have hconnected : path.IsChain (Relation.TransGen graph.Leads) :=
    hpath.imp fun _ _ => Relation.TransGen.single
  exact hconnected.pairwise.nodup

/-- A path does not leave the nodes of the graph. -/
theorem mem_ids_of_isChain (h : graph.WellFormed) {source : NodeId} {path : List NodeId}
    (hsource : source ∈ graph.nodes.map (·.id)) (hpath : (source :: path).IsChain graph.Leads) :
    ∀ id ∈ source :: path, id ∈ graph.nodes.map (·.id) := by
  induction path generalizing source with
  | nil => simpa using hsource
  | cons target rest ih =>
    obtain ⟨⟨edge, hedge, -, rfl⟩, hrest⟩ := List.isChain_cons_cons.mp hpath
    exact List.forall_mem_cons.mpr ⟨hsource, ih (h.connected edge hedge).2.2 hrest⟩

/-- A path has no more nodes than the graph, for none comes twice. -/
theorem length_le_of_isChain (h : graph.WellFormed) {source : NodeId} {path : List NodeId}
    (hsource : source ∈ graph.nodes.map (·.id)) (hpath : (source :: path).IsChain graph.Leads) :
    (source :: path).length ≤ graph.nodes.length := by
  have hnodup := h.nodup_of_isChain hpath
  have hsubset : source :: path ⊆ graph.nodes.map (·.id) := h.mem_ids_of_isChain hsource hpath
  simpa using (List.subperm_of_subset hnodup hsubset).length_le

end WellFormed

end Graph

namespace Walk

variable {services : Services σ} {run : Run} {index : GraphIndex}

/-! ## Paths of turns -/

/-- A path that turns follow: the frame of the first one comes from a stack, and the frame of each later one was
pushed by the one before it. -/
structure Follows (stack : List Frame) (turns path : List (Turn σ)) : Prop where
  sublist : path.Sublist turns
  head : ∀ turn ∈ path.head?, turn.frame ∈ stack
  chain : path.IsChain fun earlier later => later.frame ∈ earlier.pushed

namespace Follows

variable {stack : List Frame} {turns path : List (Turn σ)} {turn : Turn σ}

theorem dropLast (h : Follows stack turns (path ++ [turn])) : Follows stack turns path := by
  refine ⟨(List.sublist_append_left path [turn]).trans h.sublist, ?_, h.chain.left_of_append⟩
  intro first hfirst
  apply h.head
  rw [List.head?_append, Option.mem_def.mp hfirst]
  rfl

theorem mem_last (h : Follows stack turns (path ++ [turn])) : turn ∈ turns :=
  h.sublist.subset (by simp)

end Follows

namespace Turns

variable {stack : List Frame} {first last : World σ} {turns : List (Turn σ)}

/-- To each turn leads a path. -/
theorem exists_follows (h : Turns services run index stack first turns last) :
    ∀ turn ∈ turns, ∃ path, Follows stack turns (path ++ [turn]) := by
  induction h with
  | done => simp
  | @turn first rest turns last htake _ ih =>
    rw [List.forall_mem_cons]
    constructor
    · refine ⟨[], ?_, ?_, List.isChain_singleton _⟩
      · exact List.singleton_sublist.mpr List.mem_cons_self
      · rintro _ ⟨⟩
        exact List.mem_cons_self
    · intro turn hturn
      obtain ⟨path, hpath⟩ := ih turn hturn
      obtain ⟨next, hnext⟩ : ∃ next, (path ++ [turn]).head? = some next := by
        cases path with
        | nil => exact ⟨turn, rfl⟩
        | cons next _ => exact ⟨next, rfl⟩
      -- the path starts below the first turn or beside it
      rcases List.mem_append.mp (hpath.head next hnext) with hpushed | hrest
      · refine ⟨first :: path, hpath.sublist.cons_cons first, ?_, ?_⟩
        · rintro _ ⟨⟩
          exact List.mem_cons_self
        · refine List.isChain_cons.mpr ⟨?_, hpath.chain⟩
          intro other hother
          obtain rfl := Option.some.inj (hnext.symm.trans hother)
          exact hpushed
      · refine ⟨path, hpath.sublist.cons first, ?_, hpath.chain⟩
        intro other hother
        obtain rfl := Option.some.inj (hnext.symm.trans hother)
        exact List.mem_cons_of_mem _ hrest

theorem takes (h : Turns services run index stack first turns last) :
    ∀ turn ∈ turns, Takes services run index turn := fun turn hturn =>
  (h.forall_frame (fun _ => True) (fun _ _ _ _ _ => trivial) (fun _ _ => trivial) turn hturn).1

end Turns

/-! ## Walks below a root -/

section

variable {graph : Graph} {root : NodeId} {context : Context} {first last : World σ}
  {turns : List (Turn σ)}

/-- Below a root each turn on a path is one deeper than the one before it. -/
theorem Follows.depth_eq
    (h : Turns services run index (childFrames index root context 1) first turns last)
    {path : List (Turn σ)} {turn : Turn σ}
    (hpath : Follows (childFrames index root context 1) turns (path ++ [turn])) :
    turn.frame.depth = path.length + 1 := by
  induction path using List.reverseRecOn generalizing turn with
  | nil =>
    obtain ⟨child, -, hchild⟩ := List.mem_map.mp (hpath.head turn rfl)
    rw [← hchild]
    rfl
  | append_singleton path before ih =>
    have hbefore := hpath.dropLast
    have hpushed : turn.frame ∈ before.pushed := by
      have hchain := (List.append_assoc path [before] [turn]) ▸ hpath.chain
      exact (List.isChain_append_cons_cons.mp hchain).2.1
    obtain ⟨-, -, -, -, hdepth⟩ := (h.takes before hbefore.mem_last).of_mem_pushed hpushed
    rw [hdepth, ih hbefore, List.length_append, List.length_singleton]

/-- Paths of turns follow edges of the graph. -/
theorem Follows.isChain_leads
    (h : Turns services run graph.index (childFrames graph.index root context 1) first turns last)
    {path : List (Turn σ)} (hpath : Follows (childFrames graph.index root context 1) turns path) :
    (root :: path.map (·.frame.node)).IsChain graph.Leads := by
  rw [List.isChain_cons, List.isChain_map]
  constructor
  · intro id hid
    rw [List.head?_map, Option.mem_map] at hid
    obtain ⟨turn, hturn, rfl⟩ := hid
    obtain ⟨child, hchild, hframe⟩ := List.mem_map.mp (hpath.head turn hturn)
    rw [← hframe]
    exact Graph.leads_of_mem_children hchild
  · refine hpath.chain.imp_of_mem_imp fun earlier later hearlier _ hpushed => ?_
    obtain ⟨node, hnode, hchild, -⟩ :=
      (h.takes earlier (hpath.sublist.subset hearlier)).of_mem_pushed hpushed
    obtain ⟨-, hid, -⟩ := GraphIndex.mem_of_node?_eq_some hnode
    rw [← hid]
    exact Graph.leads_of_mem_children hchild

/-- The turns of a walk below a root go straight down: no path comes back to a node, and each frame is less
deep than the graph has nodes. -/
structure GoesDown (graph : Graph) (root : NodeId) (stack : List Frame) (turns : List (Turn σ)) :
    Prop where
  nodup : ∀ path, Follows stack turns path → (root :: path.map (·.frame.node)).Nodup
  followed : ∀ turn ∈ turns, ∃ path, Follows stack turns (path ++ [turn])
  depth_le : ∀ turn ∈ turns, turn.frame.depth ≤ graph.nodes.length - 1

theorem Turns.goesDown (hgraph : graph.WellFormed) (hroot : root ∈ graph.nodes.map (·.id))
    (h : Turns services run graph.index (childFrames graph.index root context 1) first turns last) :
    GoesDown graph root (childFrames graph.index root context 1) turns := by
  refine ⟨fun path hpath => hgraph.nodup_of_isChain (hpath.isChain_leads h), h.exists_follows, ?_⟩
  intro turn hturn
  obtain ⟨path, hpath⟩ := h.exists_follows turn hturn
  have hlength := hgraph.length_le_of_isChain hroot (hpath.isChain_leads h)
  have hdepth := Follows.depth_eq h hpath
  simp only [List.length_cons, List.length_map, List.length_append, List.length_nil] at hlength
  omega

end

end Walk

/-! ## Faults -/

/-- What an outcome shows as its error, if anything, is a fault other than that a node is too deep. -/
def Outcome.WithinDepth (outcome : Outcome) : Prop :=
  ∀ error, outcome.error = some error → ∃ fault : StepFault, fault ≠ .depthExceeded ∧ error = toJson fault

namespace Outcome

theorem withinDepth_failedWith {output : Json} {fault : StepFault} (h : fault ≠ .depthExceeded) :
    (failedWith output fault).WithinDepth := by
  intro error herror
  exact ⟨fault, h, (Option.some.inj herror).symm⟩

theorem withinDepth_of_error {outcome : Outcome} (h : outcome.error = none) :
    outcome.WithinDepth := by
  intro error herror
  rw [h] at herror
  contradiction

end Outcome

/-- Only a node that is too deep gives this as its reason. -/
theorem StepFault.reason_ne {fault : StepFault} (h : fault ≠ .depthExceeded) :
    fault.reason ≠ "max_traversal_depth_exceeded" := by
  cases fault with
  | depthExceeded => exact absurd rfl h
  | _ => simp [reason]

theorem Outcome.WithinDepth.reasonOf?_ne {outcome : Outcome} (h : outcome.WithinDepth) :
    reasonOf? outcome.error ≠ some "max_traversal_depth_exceeded" := by
  cases herror : outcome.error with
  | none => exact nofun
  | some error =>
    obtain ⟨fault, hfault, rfl⟩ := h error herror
    rw [fault.reasonOf?_toJson]
    exact fun hreason => fault.reason_ne hfault (Option.some.inj hreason)

namespace Node

variable {services : Services σ} {run : Run}

theorem runCondition_withinDepth (settings : ConditionSettings) (context : Context) :
    (runCondition services settings context).WithinDepth := by
  unfold runCondition
  split
  · exact Outcome.withinDepth_failedWith nofun
  · exact Outcome.withinDepth_of_error rfl

theorem commandOutcome_withinDepth (target : CommandTarget) (log : CommandLog) (context : Context) :
    (commandOutcome target log context).WithinDepth := by
  unfold commandOutcome
  split
  · exact Outcome.withinDepth_failedWith nofun
  · exact Outcome.withinDepth_of_error rfl

theorem runCommand_withinDepth (settings : CommandSettings) (context : Context) :
    (runCommand services run settings context).Yields Outcome.WithinDepth := by
  unfold runCommand
  split
  · split
    · exact .pure (Outcome.withinDepth_failedWith nofun)
    · exact .pure (Outcome.withinDepth_failedWith nofun)
    · exact .pure (Outcome.withinDepth_failedWith nofun)
    · exact .pure (Outcome.withinDepth_failedWith nofun)
    · next target htarget =>
      refine .bind (.any _) fun time _ => ?_
      refine .bind (.any _) fun answer _ => ?_
      cases answer with
      | error error => exact .pure (Outcome.withinDepth_failedWith nofun)
      | ok log => exact .pure (commandOutcome_withinDepth target log context)
  · exact .pure (Outcome.withinDepth_failedWith nofun)

theorem runQuery_withinDepth (query : QueryService σ) (node : Node) (context : Context) :
    (runQuery query run node context).Yields Outcome.WithinDepth := by
  unfold runQuery
  split
  · exact .pure (Outcome.withinDepth_failedWith nofun)
  · refine .bind (.any _) fun answer _ => ?_
    cases answer with
    | error error => exact .pure (Outcome.withinDepth_failedWith nofun)
    | ok result => exact .pure (Outcome.withinDepth_of_error rfl)

theorem sendAlert_withinDepth {deliver : AlertMessage → Json → σ → Except AlertError Json × σ}
    (key : String) (cooldown : Cooldown) (message : AlertMessage) (template : Json)
    (context : Context) :
    (sendAlert deliver key cooldown message template context).Yields Outcome.WithinDepth := by
  unfold sendAlert
  refine .bind (.any _) fun claimed _ => ?_
  cases claimed with
  | false => exact .pure (Outcome.withinDepth_of_error rfl)
  | true =>
    refine .bind (.any _) fun answer _ => ?_
    cases answer with
    | error error =>
      refine .bind (.any _) fun _ _ => ?_
      exact .pure (Outcome.withinDepth_failedWith nofun)
    | ok receipt => exact .pure (Outcome.withinDepth_of_error rfl)

theorem runAlert_withinDepth {deliver : AlertMessage → Json → σ → Except AlertError Json × σ}
    (node : Node) (context : Context) :
    (runAlert services deliver run node context).Yields Outcome.WithinDepth := by
  unfold runAlert
  split
  · exact .pure (Outcome.withinDepth_of_error rfl)
  · split
    · exact .pure (Outcome.withinDepth_of_error rfl)
    · split
      · exact .pure (Outcome.withinDepth_failedWith nofun)
      · exact .pure (Outcome.withinDepth_failedWith nofun)
      · exact .pure (Outcome.withinDepth_failedWith nofun)
      · dsimp only
        split
        · exact .pure (Outcome.withinDepth_failedWith nofun)
        · exact sendAlert_withinDepth _ _ _ _ _

variable (services run) in
/-- A node that is executed does not fail because it is too deep, whatever the services do. -/
theorem execute_withinDepth (node : Node) (kind : NodeKind) (context : Context) :
    (node.execute services run kind context).Yields Outcome.WithinDepth := by
  rcases execute_cases services run node kind context with
    ⟨-, h⟩ | ⟨-, h⟩ | ⟨query, -, -, h⟩ | ⟨deliver, -, -, h⟩ | ⟨-, -, h⟩ <;> rw [h]
  · exact .pure (runCondition_withinDepth _ _)
  · exact runCommand_withinDepth _ _
  · exact runQuery_withinDepth _ _ _
  · exact runAlert_withinDepth _ _
  · exact .pure (Outcome.withinDepth_of_error rfl)

end Node

/-- A node that comes up within the limit does not fail because it is too deep. -/
theorem Walk.Takes.reasonOf?_ne {services : Services σ} {run : Run} {index : GraphIndex} {turn : Turn σ}
    (h : Takes services run index turn) (hdepth : turn.frame.depth ≤ limit services) {visit : Visit}
    (hvisit : turn.visit? = some visit) :
    reasonOf? visit.error ≠ some "max_traversal_depth_exceeded" := by
  cases h with
  | passed _ hnone =>
    rw [hnone] at hvisit
    contradiction
  | refused _ hdeep => exact absurd hdepth (Nat.not_le_of_lt hdeep)
  | @entered node kind entered _ _ _ _ henter hentered =>
    have hexecute := Node.execute_withinDepth services run node kind turn.frame.context
    have hyields := enter_yields hexecute turn.before
    rw [henter] at hyields
    obtain ⟨outcome, houtcome, hrecords, -⟩ := hyields
    obtain rfl := Option.some.inj (hentered.symm.trans hvisit)
    rw [hrecords.error_eq]
    exact houtcome.reasonOf?_ne

namespace Execution

/-! ## Runs -/

variable {services : Services σ} {run : Run}

/-- The branch of a trigger turn by turn: after the trigger itself come the visits of a walk that goes straight
down. -/
structure BranchOfTurns (services : Services σ) (run : Run) (graph : Graph) (record : TelemetryRecord)
    (trigger : TriggerMatch) (visits : List Visit) (started : Visit) (turns : List (Turn σ)) :
    Prop where
  started_records : started.Records trigger.node (triggerInput record)
    (.completed trigger.output (Context.new trigger.output record.values))
  visits_eq : visits = started :: turns.filterMap Turn.visit?
  walks : ∃ first last,
    Walk.Turns services run graph.index (stackBelow graph.index record trigger) first turns last
  goesDown : Walk.GoesDown graph trigger.node.id (stackBelow graph.index record trigger) turns

variable (services run) in
theorem runBranch_turns {graph : Graph} {trigger : TriggerMatch} (hgraph : graph.WellFormed)
    (htrigger : trigger.node ∈ graph.nodes) (record : TelemetryRecord) :
    (runBranch services run graph.index record trigger).Yields fun visits =>
      ∃ started turns, BranchOfTurns services run graph record trigger visits started turns := by
  have hbelow : (Walk.walk services run graph.index (stackBelow graph.index record trigger)).Yields
      fun below => ∃ first turns last, below = turns.filterMap Turn.visit? ∧
        Walk.Turns services run graph.index (stackBelow graph.index record trigger) first turns last := by
    intro world
    obtain ⟨turns, last, hturns, -⟩ := Walk.exists_turns services run graph.index.length_children_le
      (stackBelow graph.index record trigger) world
    exact ⟨world, turns, last, congrArg Prod.fst hturns.walk_eq, hturns⟩
  unfold runBranch
  refine .bind (Walk.visit_pure_yields _ _ _) ?_
  rintro ⟨started, next⟩ ⟨hstarted, -⟩
  refine .bind hbelow ?_
  rintro _ ⟨first, turns, last, rfl, hturns⟩
  have hdown := hturns.goesDown hgraph (List.mem_map_of_mem htrigger)
  exact .pure ⟨started, turns, hstarted, rfl, ⟨first, last, hturns⟩, hdown⟩

/-- Nothing on a branch is too deep if the graph has no more nodes than a path may have. -/
theorem BranchOfTurns.reasonOf?_ne {graph : Graph} {record : TelemetryRecord} {trigger : TriggerMatch}
    {visits : List Visit} {started : Visit} {turns : List (Turn σ)}
    (h : BranchOfTurns services run graph record trigger visits started turns)
    (hnodes : graph.nodes.length ≤ Walk.limit services + 1) :
    ∀ visit ∈ visits, reasonOf? visit.error ≠ some "max_traversal_depth_exceeded" := by
  rw [h.visits_eq, List.forall_mem_cons]
  constructor
  · rw [h.started_records.error_eq]
    exact nofun
  · intro visit hvisit
    obtain ⟨turn, hturn, hvisit⟩ := List.mem_filterMap.mp hvisit
    obtain ⟨first, last, hturns⟩ := h.walks
    have hdepth := h.goesDown.depth_le turn hturn
    exact (hturns.takes turn hturn).reasonOf?_ne (by omega) hvisit

/-- **Accepted graphs stay within their size.** If a graph has passed the checks, then whatever the record and
whatever the services do, no path of a run comes back to a node and no frame is deeper than there are other
nodes in the graph. So if the graph has at most one node more than the limit, no step fails because it is too
deep. Without an answer of the catalog there are no steps at all. -/
theorem execute_of_checkStructure (services : Services σ) (run : Run) (version : WorkflowVersion)
    (record : TelemetryRecord) (correlation : CorrelationId) (world : World σ) {graph : Graph}
    (hgraph : version.readGraph = .ok graph) (hchecked : graph.checkStructure = .ok ()) :
    match matchTriggers services.catalog graph record with
    | .error error =>
      execute services run version record correlation world = (.error (.catalog error), world)
    | .ok triggers => ∃ result last branches,
      execute services run version record correlation world = (.ok result, last) ∧
        result.steps = branches.flatten.mapIdx (stepOf run correlation) ∧
        List.Forall₂ (fun trigger visits => ∃ started turns,
          BranchOfTurns services run graph record trigger visits started turns) triggers branches ∧
        (graph.nodes.length ≤ Walk.limit services + 1 → ∀ step ∈ result.steps,
          step.errorReason? ≠ some "max_traversal_depth_exceeded") := by
  have hwellFormed := Graph.wellFormed_of_checkStructure hchecked
  cases hmatch : matchTriggers services.catalog graph record with
  | error error =>
    simp only [execute, hgraph, hmatch]
    rfl
  | ok triggers =>
    have hnodes := nodes_matchTriggers hmatch
    have htrigger : ∀ trigger ∈ triggers, trigger.node ∈ graph.nodes := by
      intro trigger htrigger
      have hnode : trigger.node ∈ triggers.map (·.node) := List.mem_map_of_mem htrigger
      rw [hnodes] at hnode
      exact (List.mem_filter.mp hnode).1
    have hturns := fun trigger hmem =>
      runBranch_turns services run hwellFormed (htrigger trigger hmem) record
    obtain ⟨result, branches, hresult, -, hbranches, hsteps⟩ :=
      execute_branches correlation hgraph hmatch hturns world
    refine ⟨result, _, branches, Prod.ext hresult rfl, hsteps, hbranches, ?_⟩
    intro hsize step hstep
    rw [hsteps, List.mem_mapIdx] at hstep
    obtain ⟨position, hposition, rfl⟩ := hstep
    obtain ⟨visits, hvisits, hvisit⟩ := List.mem_flatten.mp (List.getElem_mem hposition)
    obtain ⟨trigger, -, started, turns, hbranch⟩ := Success.exists_item_of_mem hbranches hvisits
    exact hbranch.reasonOf?_ne hsize _ hvisit

/-- Four nodes and a limit of three: no step is too deep. -/
theorem execute_of_checkStructure_diamond :
    let services : Services Recorder := { Sample.askingServices with maxDepth := 3 }
    let version := Sample.versionOf Sample.diamond
    version.readGraph = .ok Sample.diamond ∧ Sample.diamond.checkStructure = .ok () ∧
      matchTriggers services.catalog Sample.diamond Sample.record = .ok Sample.triggers ∧
      ∃ result last branches,
        execute services Sample.run version Sample.record ⟨0⟩ Sample.world = (.ok result, last) ∧
        result.steps = branches.flatten.mapIdx (stepOf Sample.run ⟨0⟩) ∧
        List.Forall₂ (fun trigger visits => ∃ started turns,
          BranchOfTurns services Sample.run Sample.diamond Sample.record trigger visits started turns)
            Sample.triggers branches ∧
        ∀ step ∈ result.steps, step.errorReason? ≠ some "max_traversal_depth_exceeded" := by
  intro services version
  have hgraph : version.readGraph = .ok Sample.diamond := rfl
  have hchecked : Sample.diamond.checkStructure = .ok () := by decide
  have hmatch : matchTriggers services.catalog Sample.diamond Sample.record = .ok Sample.triggers := rfl
  have hsize : Sample.diamond.nodes.length ≤ Walk.limit services + 1 := by decide
  have h := execute_of_checkStructure services Sample.run version Sample.record ⟨0⟩ Sample.world
    hgraph hchecked
  rw [hmatch] at h
  obtain ⟨result, last, branches, hresult, hsteps, hbranches, hreasons⟩ := h
  exact ⟨hgraph, hchecked, hmatch, result, last, branches, hresult, hsteps, hbranches, hreasons hsize⟩

end Execution

end TelemetryAutomation
