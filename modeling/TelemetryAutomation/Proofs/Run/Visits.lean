import TelemetryAutomation.Proofs.Run.Actions
import TelemetryAutomation.Run.Execution

/-!
# What is known of all visits of a run

A property of the visits of a run is shown node by node. `walk_yields` carries it through a whole walk:
it is enough that entering and refusing a node keep it, for frames with an invariant that is handed on
from a node to its children.
-/

namespace TelemetryAutomation

variable {σ : Type}

/-- A visit tells of a node, what went in and what became of it. -/
structure Visit.Records (visit : Visit) (node : Node) (input : Json) (outcome : Outcome) : Prop where
  node_eq : visit.node = node.id
  nodeType_eq : visit.nodeType = node.typeName
  status_eq : visit.status = outcome.status
  input_eq : visit.input = input
  output_eq : visit.output = outcome.output
  error_eq : visit.error = outcome.error

namespace ExecutionResult

/-- A run fails exactly if one of its steps failed. -/
theorem status_ofSteps (steps : List RunStep) :
    (ofSteps steps).status =
      if ∃ step ∈ steps, step.status = .failed then .failed else .completed := by
  by_cases h : ∃ step ∈ steps, step.status = .failed
  · rw [if_pos h, ofSteps, if_pos (by simpa using h)]
  · rw [if_neg h, ofSteps, if_neg (by simpa using h)]

theorem steps_ofSteps (steps : List RunStep) : (ofSteps steps).steps = steps := by
  rw [ofSteps]
  split <;> rfl

theorem isTerminal_status_ofSteps (steps : List RunStep) : (ofSteps steps).status.isTerminal := by
  rw [ofSteps]
  split <;> rfl

end ExecutionResult

namespace Walk

variable {services : Services σ} {run : Run} {index : GraphIndex}

theorem visit_yields {node : Node} {input : Json} {act : Action σ Outcome}
    {property : Outcome → Prop} (h : act.Yields property) :
    (visit node input act).Yields fun (kept, next) =>
      ∃ outcome, property outcome ∧ kept.Records node input outcome ∧ next = outcome.next := by
  refine .bind (.any _) fun startedAt _ => ?_
  refine .bind h fun outcome houtcome => ?_
  refine .bind (.any _) fun finishedAt _ => ?_
  exact .pure ⟨outcome, houtcome, ⟨rfl, rfl, rfl, rfl, rfl, rfl⟩, rfl⟩

theorem visit_pure_yields (node : Node) (input : Json) (outcome : Outcome) :
    Action.Yields (σ := σ) (visit node input (pure outcome)) fun (kept, next) =>
      kept.Records node input outcome ∧ next = outcome.next := by
  refine (visit_yields (.pure (Eq.refl outcome))).mono ?_
  rintro ⟨kept, next⟩ ⟨_, rfl, hrecords, hnext⟩
  exact ⟨hrecords, hnext⟩

theorem refuse_yields (node : Node) (context : Context) :
    (refuse (σ := σ) node context).Yields
      (·.Records node (inputOf context) (Outcome.failed .depthExceeded)) := by
  refine .map ((visit_pure_yields _ _ _).mono ?_)
  rintro ⟨kept, next⟩ ⟨hrecords, -⟩
  exact hrecords

/-- The visits of a walk have a property if it holds wherever a node is refused or entered. What a frame
has to satisfy for this is handed on to the children of its node. -/
theorem walk_yields (frameOk : Frame → Prop) {visitOk : Visit → Prop}
    (hrefuse : ∀ frame node kind, frameOk frame → index.node? frame.node = some node →
      node.kind? = some kind → limit services < frame.depth →
      ∀ visit : Visit, visit.Records node (inputOf frame.context) (.failed .depthExceeded) →
        visitOk visit)
    (henter : ∀ frame node kind, frameOk frame → index.node? frame.node = some node →
      node.kind? = some kind → ¬ limit services < frame.depth →
      (node.execute services run kind frame.context).Yields fun outcome =>
        (∀ visit : Visit, visit.Records node (inputOf frame.context) outcome → visitOk visit) ∧
          ∀ context, outcome.next = some context →
            ∀ child ∈ index.children node.id, frameOk ⟨child, context, frame.depth + 1⟩)
    {stack : List Frame} (hstack : ∀ frame ∈ stack, frameOk frame) :
    (walk services run index stack).Yields fun visits => ∀ visit ∈ visits, visitOk visit := by
  fun_induction walk services run index stack with
  | case1 => exact .pure (by simp)
  | case2 frame rest hnode ih =>
    exact ih (List.forall_mem_cons.mp hstack).2
  | case3 frame rest node hnode hkind ih =>
    exact ih (List.forall_mem_cons.mp hstack).2
  | case4 frame rest node hnode kind hkind hdepth ih =>
    obtain ⟨hframe, hrest⟩ := List.forall_mem_cons.mp hstack
    refine .bind (refuse_yields node frame.context) fun refused hrefused => ?_
    refine .bind (ih hrest) fun more hmore => ?_
    have hvisit := hrefuse frame node kind hframe hnode hkind hdepth refused hrefused
    exact .pure (List.forall_mem_cons.mpr ⟨hvisit, hmore⟩)
  | case5 frame rest node hnode kind hkind hdepth ihSkip ihBelow =>
    obtain ⟨hframe, hrest⟩ := List.forall_mem_cons.mp hstack
    refine .bind (visit_yields (henter frame node kind hframe hnode hkind hdepth)) ?_
    rintro ⟨entered, next⟩ ⟨outcome, ⟨hvisit, hchildren⟩, hrecords, hnext⟩
    cases next with
    | none =>
      refine .bind (ihSkip hrest) fun more hmore => ?_
      exact .pure (List.forall_mem_cons.mpr ⟨hvisit entered hrecords, hmore⟩)
    | some next =>
      -- the children come with the invariant that the node hands on
      have hstack' : ∀ frame' ∈ childFrames index node.id next (frame.depth + 1) ++ rest,
          frameOk frame' := by
        rw [List.forall_mem_append]
        refine ⟨?_, hrest⟩
        intro frame' hframe'
        obtain ⟨child, hchild, rfl⟩ := List.mem_map.mp hframe'
        exact hchildren next hnext.symm child hchild
      refine .bind (ihBelow next hstack') fun more hmore => ?_
      exact .pure (List.forall_mem_cons.mpr ⟨hvisit entered hrecords, hmore⟩)

end Walk

namespace Execution

variable {services : Services σ} {run : Run}

/-- The visits of the branch of a trigger: the trigger is completed, and whatever is visited below it has
a property. -/
def BranchOf (record : TelemetryRecord) (visitOk : Visit → Prop) (trigger : TriggerMatch)
    (visits : List Visit) : Prop :=
  ∃ started below, visits = started :: below ∧
    started.Records trigger.node (triggerInput record)
      (.completed trigger.output (Context.new trigger.output record.values)) ∧
    ∀ visit ∈ below, visitOk visit

/-- What a branch walks through starts with the children of its trigger. -/
def stackBelow (index : GraphIndex) (record : TelemetryRecord) (trigger : TriggerMatch) :
    List Frame :=
  Walk.childFrames index trigger.node.id (Context.new trigger.output record.values) 1

theorem runBranch_yields {index : GraphIndex} {record : TelemetryRecord} {trigger : TriggerMatch}
    {visitOk : Visit → Prop}
    (h : (Walk.walk services run index (stackBelow index record trigger)).Yields
      fun visits => ∀ visit ∈ visits, visitOk visit) :
    (runBranch services run index record trigger).Yields (BranchOf record visitOk trigger) := by
  refine .bind (Walk.visit_pure_yields _ _ _) ?_
  rintro ⟨started, next⟩ ⟨hstarted, -⟩
  refine .bind h fun below hbelow => ?_
  exact .pure ⟨started, below, rfl, hstarted, hbelow⟩

/-- A run with matches consists of their branches, and without any it has no steps. -/
theorem execute_branches {version : WorkflowVersion} {record : TelemetryRecord}
    (correlation : CorrelationId) {graph : Graph} {triggers : List TriggerMatch}
    {branchOk : TriggerMatch → List Visit → Prop} (hgraph : version.readGraph = .ok graph)
    (hmatch : matchTriggers services.catalog graph record = .ok triggers)
    (hbranch : ∀ trigger ∈ triggers,
      (runBranch services run graph.index record trigger).Yields (branchOk trigger)) :
    (execute services run version record correlation).Yields fun answer =>
      ∃ result branches, answer = .ok result ∧ result.status.isTerminal ∧
        List.Forall₂ branchOk triggers branches ∧
        result.steps = branches.flatten.mapIdx (stepOf run correlation) := by
  unfold execute
  simp only [hgraph, hmatch]
  cases triggers with
  | nil => exact .pure ⟨_, [], rfl, rfl, .nil, rfl⟩
  | cons trigger rest =>
    refine .map (.bind (.mapM hbranch) fun branches hbranches => .pure ?_)
    exact ⟨_, branches, rfl, ExecutionResult.isTerminal_status_ofSteps _, hbranches,
      ExecutionResult.steps_ofSteps _⟩

/-- A property of the visits below all triggers is one of the run. -/
theorem execute_yields {version : WorkflowVersion} {record : TelemetryRecord}
    (correlation : CorrelationId) {graph : Graph} {triggers : List TriggerMatch}
    {visitOk : Visit → Prop} (hgraph : version.readGraph = .ok graph)
    (hmatch : matchTriggers services.catalog graph record = .ok triggers)
    (hbelow : ∀ trigger ∈ triggers,
      (Walk.walk services run graph.index (stackBelow graph.index record trigger)).Yields
        fun visits => ∀ visit ∈ visits, visitOk visit) :
    (execute services run version record correlation).Yields fun answer =>
      ∃ result branches, answer = .ok result ∧ result.status.isTerminal ∧
        List.Forall₂ (BranchOf record visitOk) triggers branches ∧
        result.steps = branches.flatten.mapIdx (stepOf run correlation) :=
  execute_branches correlation hgraph hmatch fun trigger htrigger =>
    runBranch_yields (hbelow trigger htrigger)

end Execution

end TelemetryAutomation
