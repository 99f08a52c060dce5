import TelemetryAutomation.Graph.Basic

/-!
# Graph indexes

An index finds the node of an id and the children of a node. Nodes without an id are left out, and of
two nodes with one id the later counts. Edges that start or end at no node of the index are left out,
so that following edges never leads to a node that is not there.

* `length_children_le`: no node has more children than `widest`
-/

namespace TelemetryAutomation

/-- The nodes of a graph by id, and the targets of their edges in the order of the edges. -/
structure GraphIndex where
  nodes : SortedMap NodeId Node
  targets : SortedMap NodeId (List NodeId)

namespace GraphIndex

/-- Adds a node that has an id. -/
def addNode (nodes : SortedMap NodeId Node) (node : Node) : SortedMap NodeId Node :=
  if node.id.isEmpty then nodes else nodes.insert node.id node

/-- Adds an edge between two nodes of the index. -/
def addEdge (nodes : SortedMap NodeId Node) (targets : SortedMap NodeId (List NodeId))
    (edge : Edge) : SortedMap NodeId (List NodeId) :=
  match edge.source?, edge.target? with
  | some source, some target =>
    if nodes.contains source && nodes.contains target then
      targets.insert source ((targets.get? source).getD [] ++ [target])
    else targets
  | _, _ => targets

/-- The node with an id. -/
def node? (index : GraphIndex) (id : NodeId) : Option Node := index.nodes.get? id

/-- The targets of the edges of a node. -/
def children (index : GraphIndex) (id : NodeId) : List NodeId := (index.targets.get? id).getD []

/-- The number of nodes. -/
def size (index : GraphIndex) : Nat := index.nodes.size

/-- The largest number of children of a node. -/
def widest (index : GraphIndex) : Nat :=
  index.targets.entries.foldr (fun entry n => max entry.2.length n) 0

theorem length_le_widest {entries : List (NodeId × List NodeId)} {id : NodeId}
    {children : List NodeId} (h : SortedMap.findEntry id entries = some children) :
    children.length ≤ entries.foldr (fun entry n => max entry.2.length n) 0 := by
  induction entries with
  | nil => simp [SortedMap.findEntry] at h
  | cons entry rest ih =>
    rw [SortedMap.findEntry] at h
    split at h
    · cases h
      exact Nat.le_max_left ..
    · exact Nat.le_trans (ih h) (Nat.le_max_right ..)

/-- No node has more children than the widest. -/
theorem length_children_le (index : GraphIndex) (id : NodeId) :
    (index.children id).length ≤ index.widest := by
  cases h : index.targets.get? id with
  | none => simp [children, h]
  | some targets =>
    simp only [children, h, Option.getD_some]
    exact length_le_widest h

end GraphIndex

/-- The index of a graph. -/
def Graph.index (graph : Graph) : GraphIndex :=
  let nodes := graph.nodes.foldl GraphIndex.addNode ∅
  ⟨nodes, graph.edges.foldl (GraphIndex.addEdge nodes) ∅⟩

end TelemetryAutomation
