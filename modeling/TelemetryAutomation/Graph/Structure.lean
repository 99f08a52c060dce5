import TelemetryAutomation.Graph.Basic

/-!
# Well-formed graphs

A graph is well formed if its nodes have distinct ids, there is a trigger among them, every edge
connects two of them, and no path along the edges comes back to where it started. The checks run in
this order and the first fault is reported.

Cycles are found by depth-first search from every node, so also those that no trigger reaches. The
search looks at the edges of a node from the last to the first and stops at the first edge that leads
back to a node on the path to it.
-/

namespace TelemetryAutomation

/-- Why a graph is not well formed. -/
inductive StructuralError
  /-- The node at a position has no id or one that was used before. -/
  | duplicateOrMissingId (index : Nat) (id : NodeId)
  | empty
  | noTrigger
  | danglingEdge (edge source target : String)
  /-- Following the edges leads from the node back to it. -/
  | cycle (id : NodeId)
deriving DecidableEq, Repr

/-- The wording of an error. -/
def StructuralError.message : StructuralError → String
  | duplicateOrMissingId index id =>
    if id.isEmpty then s!"node at position {index} has no id"
    else "node id '" ++ id ++ "' is used more than once"
  | empty => "workflow graph has no nodes"
  | noTrigger => "workflow graph has no trigger node"
  | danglingEdge edge source target =>
    "edge '" ++ edge ++ "' references unknown nodes (" ++ source ++ " -> " ++ target ++ ")"
  | cycle id => "workflow graph contains a cycle through node '" ++ id ++ "'"

namespace Graph

/-- The first node, counted from `index`, whose id is empty or among those seen before. -/
def checkIds (seen : List NodeId) (index : Nat) : List Node → Except StructuralError Unit
  | [] => .ok ()
  | node :: rest =>
    if node.id.isEmpty ∨ node.id ∈ seen then .error (.duplicateOrMissingId index node.id)
    else checkIds (node.id :: seen) (index + 1) rest

/-- Whether an edge connects two of the given nodes. -/
def connects (ids : List NodeId) (edge : Edge) : Bool :=
  edge.source?.any (· ∈ ids) && edge.target?.any (· ∈ ids)

/-- The ends of the edges of a node, those of later edges first. -/
def successors (graph : Graph) (id : NodeId) : List NodeId :=
  ((graph.edges.filter (·.source = id)).map (·.target)).reverse

/-- Searches below a node. `path` leads to the node, and everything below the `finished` nodes has
been searched. Gives the nodes finished afterwards, or the node at which a cycle closes. A path has
no node twice, so the number of nodes bounds the depth. -/
def search (next : NodeId → List NodeId) :
    (fuel : Nat) → (path finished : List NodeId) → NodeId → Except NodeId (List NodeId)
  | 0, _, finished, _ => .ok finished
  | fuel + 1, path, finished, id =>
    if id ∈ path then .error id
    else if id ∈ finished then .ok finished
    else do
      let finished ← (next id).foldlM (search next fuel (id :: path)) finished
      return id :: finished

/-- Searches the whole graph for a cycle. -/
def checkAcyclic (graph : Graph) : Except NodeId Unit :=
  let fuel := graph.nodes.length + 1
  discard ((graph.nodes.map (·.id)).foldlM (search graph.successors fuel []) [])

/-- Checks that a graph is well formed. -/
def checkStructure (graph : Graph) : Except StructuralError Unit := do
  checkIds [] 0 graph.nodes
  if graph.nodes.isEmpty then throw .empty
  unless graph.nodes.any (·.isTrigger) do throw .noTrigger
  match graph.edges.find? (!connects (graph.nodes.map (·.id)) ·) with
  | some edge => throw (.danglingEdge edge.id edge.source edge.target)
  | none => graph.checkAcyclic.mapError .cycle

end Graph

end TelemetryAutomation
