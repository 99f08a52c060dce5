import TelemetryAutomation.Graph.Index
import TelemetryAutomation.Run.Behavior

/-!
# Walking a graph

Below a trigger the nodes are executed depth first, each before its children and the children in the
order of their edges. A node that comes up too deep fails without being executed, which also ends
walks through cycles.

The walk keeps the nodes that are still to come on a stack. `explore` says the same by recursion: a
node, then everything below its first child, then everything below the next one.

* `weight_childFrames_lt`: replacing a node by its children makes the stack lighter, so walks end
-/

namespace TelemetryAutomation

variable {σ : Type}

/-- What a run did at a node. -/
structure Visit where
  node : NodeId
  nodeType : String
  status : StepStatus
  input : Json
  output : Json
  error : Option Json
  startedAt : Nat
  finishedAt : Nat

/-- A node that is still to come. -/
structure Frame where
  node : NodeId
  context : Context
  depth : Nat

namespace Walk

/-- Executes an action at a node and keeps what came of it. -/
def visit (node : Node) (input : Json) (act : Action σ Outcome) :
    Action σ (Visit × Option Context) := do
  let startedAt ← Action.now
  let outcome ← act
  let finishedAt ← Action.now
  let kept : Visit := {
    node := node.id, nodeType := node.typeName, status := outcome.status, input
    output := outcome.output, error := outcome.error, startedAt, finishedAt }
  return (kept, outcome.next)

/-- What a step shows as the input of a node. -/
def inputOf (context : Context) : Json := .object [("context", toJson context)]

/-- Executes a node in a context. -/
def enter (services : Services σ) (run : Run) (node : Node) (kind : NodeKind) (context : Context) :
    Action σ (Visit × Option Context) :=
  visit node (inputOf context) (node.execute services run kind context)

/-- Refuses a node that came up too deep. -/
def refuse (node : Node) (context : Context) : Action σ Visit :=
  (·.1) <$> visit node (inputOf context) (pure (.failed .depthExceeded))

/-- The children of a node, in order. -/
def childFrames (index : GraphIndex) (parent : NodeId) (context : Context) (depth : Nat) :
    List Frame :=
  (index.children parent).map (⟨·, context, depth⟩)

/-- The depth to which nodes are executed, at least one. -/
def limit (services : Services σ) : Nat := max services.maxDepth 1

/-- A bound on the nodes that can come up at and below a frame. -/
def weight (index : GraphIndex) (limit : Nat) (frame : Frame) : Nat :=
  (index.widest + 1).pow (limit + 1 - frame.depth)

/-- A bound on the nodes that can come up from a stack. -/
def stackWeight (index : GraphIndex) (limit : Nat) : (stack : List Frame) → Nat
  | [] => 0
  | frame :: rest => weight index limit frame + stackWeight index limit rest

theorem weight_pos (index : GraphIndex) (limit : Nat) (frame : Frame) :
    0 < weight index limit frame :=
  Nat.pow_pos (Nat.succ_pos _)

theorem stackWeight_append (index : GraphIndex) (limit : Nat) (stack rest : List Frame) :
    stackWeight index limit (stack ++ rest) =
      stackWeight index limit stack + stackWeight index limit rest := by
  induction stack with
  | nil => simp [stackWeight]
  | cons frame stack ih => rw [List.cons_append, stackWeight, stackWeight, ih, Nat.add_assoc]

theorem stackWeight_map (index : GraphIndex) (limit : Nat) (context : Context) (depth : Nat)
    (children : List NodeId) :
    stackWeight index limit (children.map (⟨·, context, depth⟩)) =
      children.length * (index.widest + 1).pow (limit + 1 - depth) := by
  induction children with
  | nil => simp [stackWeight]
  | cons child rest ih =>
    rw [List.map_cons, stackWeight, ih, weight, List.length_cons, Nat.add_mul, Nat.one_mul,
      Nat.add_comm]

/-- The children of a node weigh less than the node. -/
theorem weight_childFrames_lt (index : GraphIndex) (limit : Nat) (parent : NodeId)
    (context : Context) (frame : Frame) (h : ¬ limit < frame.depth) :
    stackWeight index limit (childFrames index parent context (frame.depth + 1)) <
      weight index limit frame := by
  have hwide := index.length_children_le parent
  have hlevel : limit + 1 - frame.depth = limit + 1 - (frame.depth + 1) + 1 := by omega
  rw [childFrames, stackWeight_map, weight, hlevel]
  show _ < (index.widest + 1).pow (limit + 1 - (frame.depth + 1)) * (index.widest + 1)
  rw [Nat.mul_comm]
  exact Nat.mul_lt_mul_of_pos_left (by omega) (Nat.pow_pos (Nat.succ_pos _))

/-- Walks through the nodes of a stack and everything below them. -/
def walk (services : Services σ) (run : Run) (index : GraphIndex) (stack : List Frame) :
    Action σ (List Visit) :=
  match stack with
  | [] => pure []
  | frame :: rest =>
    match index.node? frame.node with
    | none => walk services run index rest
    | some node =>
      match node.kind? with
      | none => walk services run index rest
      | some kind =>
        if limit services < frame.depth then do
          let refused ← refuse node frame.context
          return refused :: (← walk services run index rest)
        else do
          let (entered, next) ← enter services run node kind frame.context
          match next with
          | none => return entered :: (← walk services run index rest)
          | some next =>
            let children := childFrames index node.id next (frame.depth + 1)
            return entered :: (← walk services run index (children ++ rest))
termination_by stackWeight index (limit services) stack
decreasing_by
  all_goals
    rw [stackWeight]
    first
      | exact Nat.lt_add_of_pos_left (weight_pos ..)
      | rw [stackWeight_append]
        exact Nat.add_lt_add_right (weight_childFrames_lt _ _ _ _ _ (by assumption)) _

/-- Executes a node and everything below it, down to `remaining` levels. -/
def explore (services : Services σ) (run : Run) (index : GraphIndex) :
    (remaining : Nat) → NodeId → Context → Action σ (List Visit)
  | remaining, id, context =>
    match index.node? id with
    | none => pure []
    | some node =>
      match node.kind? with
      | none => pure []
      | some kind =>
        match remaining with
        | 0 => return [← refuse node context]
        | remaining + 1 => do
          let (entered, next) ← enter services run node kind context
          match next with
          | none => return [entered]
          | some next =>
            let below ← (index.children node.id).mapM fun child =>
              explore services run index remaining child next
            return entered :: below.flatten

end Walk

end TelemetryAutomation
