import TelemetryAutomation.Graph.Index
import TelemetryAutomation.Proofs.Graph.WellFormed
import TelemetryAutomation.Proofs.SortedMap

/-!
# What an index finds

An index is filled node by node and edge by edge, and what it finds afterwards is said by the lists themselves:
under an id the last of its nodes, and below a node the targets of its edges in their order, where both ends
can be found. So the index finds nodes of the graph only, each under its own id, and it follows edges of the
graph only. In a well-formed graph nothing is left out.

* `GraphIndex.node?_eq`, `GraphIndex.children_eq`: what is found in any graph
* `GraphIndex.index_finds`: **an index finds what the graph says, and all of a well-formed graph**
-/

namespace TelemetryAutomation.GraphIndex

variable {graph : Graph} {id source target : NodeId} {node : Node}

/-! ## Nodes -/

theorem get?_addNode (nodes : SortedMap NodeId Node) (node : Node) (id : NodeId) :
    (addNode nodes node).get? id = if node.id = id ∧ id ≠ "" then some node else nodes.get? id := by
  unfold addNode
  by_cases hempty : node.id = ""
  · have hne : ¬ (node.id = id ∧ id ≠ "") := by
      rintro ⟨rfl, hne⟩
      exact hne hempty
    rw [if_pos (String.isEmpty_iff.mpr hempty), if_neg hne]
  · rw [if_neg (mt String.isEmpty_iff.mp hempty)]
    by_cases hid : node.id = id
    · subst hid
      rw [SortedMap.get?_insert_self, if_pos ⟨rfl, hempty⟩]
    · rw [SortedMap.get?_insert_of_ne (Ne.symm hid), if_neg fun h => hid h.1]

/-- Of several nodes with one id the last one is found. -/
theorem get?_foldl_addNode (nodes : List Node) (before : SortedMap NodeId Node) (id : NodeId) :
    (nodes.foldl addNode before).get? id =
      (nodes.reverse.find? fun node => node.id = id ∧ id ≠ "").or (before.get? id) := by
  induction nodes generalizing before with
  | nil => rfl
  | cons node rest ih =>
    rw [List.foldl_cons, ih, get?_addNode, List.reverse_cons, List.find?_append, Option.or_assoc]
    congr 1
    by_cases hid : node.id = id ∧ id ≠ ""
    · simp [hid]
    · simp [hid]

/-- The last node of an id is found, and no node is found without an id. -/
theorem node?_eq (graph : Graph) (id : NodeId) :
    graph.index.node? id = if id = "" then none else graph.nodes.reverse.find? (·.id = id) := by
  have hfind : graph.index.node? id = graph.nodes.reverse.find? fun node => node.id = id ∧ id ≠ "" := by
    rw [node?, Graph.index, get?_foldl_addNode]
    exact Option.or_none
  rw [hfind]
  split_ifs with hid
  · simp [hid]
  · simp [hid]

/-- What is found under an id is a node of the graph with this id. -/
theorem mem_of_node?_eq_some (h : graph.index.node? id = some node) :
    node ∈ graph.nodes ∧ node.id = id ∧ id ≠ "" := by
  rw [node?_eq] at h
  split_ifs at h with hid
  have hnode : node.id = id := by simpa using List.find?_some h
  exact ⟨List.mem_reverse.mp (List.mem_of_find?_eq_some h), hnode, hid⟩

/-- The ids under which a node is found are those of the nodes that have one. -/
theorem isSome_node?_iff : (graph.index.node? id).isSome ↔ id ≠ "" ∧ id ∈ graph.nodes.map (·.id) := by
  rw [node?_eq]
  split_ifs with hid
  · simp [hid]
  · simp [hid]

/-! ## Edges -/

section

variable {nodes : SortedMap NodeId Node} (hempty : nodes.contains "" = false)
include hempty

/-- Edges without ends are dropped like those whose ends are not found, because no node is without an id. -/
theorem addEdge_eq (targets : SortedMap NodeId (List NodeId)) (edge : Edge) :
    addEdge nodes targets edge =
      if nodes.contains edge.source ∧ nodes.contains edge.target then
        targets.insert edge.source ((targets.get? edge.source).getD [] ++ [edge.target])
      else targets := by
  unfold addEdge Edge.source? Edge.target?
  by_cases hsource : edge.source = ""
  · simp [hsource, hempty]
  · by_cases htarget : edge.target = ""
    · simp [hsource, htarget, hempty]
    · simp [String.isEmpty_iff, hsource, htarget]

theorem getD_addEdge (targets : SortedMap NodeId (List NodeId)) (edge : Edge) (id : NodeId) :
    ((addEdge nodes targets edge).get? id).getD [] =
      (targets.get? id).getD [] ++
        if edge.source = id ∧ nodes.contains edge.source ∧ nodes.contains edge.target then [edge.target]
        else [] := by
  rw [addEdge_eq hempty]
  by_cases hfound : nodes.contains edge.source ∧ nodes.contains edge.target
  · rw [if_pos hfound]
    by_cases hid : edge.source = id
    · subst hid
      rw [SortedMap.get?_insert_self, if_pos ⟨rfl, hfound⟩, Option.getD_some]
    · rw [SortedMap.get?_insert_of_ne (Ne.symm hid), if_neg fun h => hid h.1, List.append_nil]
  · rw [if_neg hfound, if_neg fun h => hfound h.2, List.append_nil]

/-- The targets are those of the edges that are kept, in their order. -/
theorem getD_foldl_addEdge (edges : List Edge) (targets : SortedMap NodeId (List NodeId)) (id : NodeId) :
    ((edges.foldl (addEdge nodes) targets).get? id).getD [] =
      (targets.get? id).getD [] ++
        (edges.filter fun edge => edge.source = id ∧ nodes.contains edge.source ∧
          nodes.contains edge.target).map (·.target) := by
  induction edges generalizing targets with
  | nil => simp
  | cons edge rest ih =>
    rw [List.foldl_cons, ih, getD_addEdge hempty, List.append_assoc, List.filter_cons]
    simp only [decide_eq_true_eq]
    split_ifs <;> rfl

end

/-- Whether both ends of an edge are found. -/
def Joins (index : GraphIndex) (edge : Edge) : Prop :=
  (index.node? edge.source).isSome ∧ (index.node? edge.target).isSome

instance (index : GraphIndex) : DecidablePred index.Joins := fun edge =>
  inferInstanceAs (Decidable ((index.node? edge.source).isSome ∧ (index.node? edge.target).isSome))

/-- Below a node the targets of its edges are found, in their order and as often as there are edges, except for
those whose ends are not found. -/
theorem children_eq (graph : Graph) (id : NodeId) :
    graph.index.children id =
      (graph.edges.filter fun edge => edge.source = id ∧ graph.index.Joins edge).map (·.target) := by
  have hnone : graph.index.node? "" = none := by rw [node?_eq, if_pos rfl]
  have hempty : (graph.nodes.foldl addNode ∅).contains "" = false := congrArg Option.isSome hnone
  exact getD_foldl_addEdge hempty graph.edges ∅ id

theorem mem_children_iff {child : NodeId} :
    child ∈ graph.index.children id ↔
      ∃ edge ∈ graph.edges, (edge.source = id ∧ graph.index.Joins edge) ∧ edge.target = child := by
  simp [children_eq, and_assoc]

/-- To a child leads an edge of the graph. -/
theorem exists_edge_of_mem_children (h : target ∈ graph.index.children source) :
    ∃ edge ∈ graph.edges, edge.source? = some source ∧ edge.target? = some target := by
  obtain ⟨edge, hedge, ⟨rfl, hsource, htarget⟩, rfl⟩ := mem_children_iff.mp h
  rw [isSome_node?_iff] at hsource htarget
  exact ⟨edge, hedge, by simp [Edge.source?, hsource.1], by simp [Edge.target?, htarget.1]⟩

/-- What has children can be found in the index. -/
theorem exists_node?_of_mem_children (h : target ∈ graph.index.children source) :
    ∃ node, graph.index.node? source = some node := by
  obtain ⟨edge, -, ⟨rfl, hsource, -⟩, -⟩ := mem_children_iff.mp h
  exact Option.isSome_iff_exists.mp hsource

/-- If no node of the index has more than so many children, then no id has. -/
theorem length_children_le_of_node? {width : Nat}
    (h : ∀ id node, graph.index.node? id = some node → (graph.index.children id).length ≤ width)
    (id : NodeId) : (graph.index.children id).length ≤ width := by
  cases hchildren : graph.index.children id with
  | nil => exact Nat.zero_le _
  | cons child rest =>
    have hchild : child ∈ graph.index.children id := by simp [hchildren]
    obtain ⟨node, hnode⟩ := exists_node?_of_mem_children hchild
    rw [← hchildren]
    exact h id node hnode

/-! ## Well-formed graphs -/

/-- Where ids are unique, the last node of an id is the first one. -/
theorem find?_reverse_of_nodup {nodes : List Node} (h : (nodes.map (·.id)).Nodup) (id : NodeId) :
    nodes.reverse.find? (·.id = id) = nodes.find? (·.id = id) := by
  induction nodes with
  | nil => rfl
  | cons node rest ih =>
    rw [List.map_cons, List.nodup_cons] at h
    rw [List.reverse_cons, List.find?_append, ih h.2, List.find?_cons]
    by_cases hid : node.id = id
    · subst hid
      have hrest : rest.find? (·.id = node.id) = none := by
        rw [List.find?_eq_none]
        intro other hother heq
        exact h.1 (List.mem_map.mpr ⟨other, hother, of_decide_eq_true heq⟩)
      simp [hrest]
    · simp [hid]

theorem node?_eq_of_wellFormed (h : graph.WellFormed) (id : NodeId) :
    graph.index.node? id = graph.node? id := by
  rw [node?_eq, find?_reverse_of_nodup h.ids_nodup, Graph.node?]
  split_ifs with hid
  · symm
    rw [List.find?_eq_none]
    intro node hnode heq
    exact h.id_ne_empty node hnode ((of_decide_eq_true heq).trans hid)
  · rfl

theorem node?_of_mem (h : graph.WellFormed) (hnode : node ∈ graph.nodes) :
    graph.index.node? node.id = some node := by
  have hfound : (graph.index.node? node.id).isSome :=
    isSome_node?_iff.mpr ⟨h.id_ne_empty node hnode, List.mem_map_of_mem hnode⟩
  obtain ⟨other, hother⟩ := Option.isSome_iff_exists.mp hfound
  obtain ⟨hmem, hid, -⟩ := mem_of_node?_eq_some hother
  obtain rfl := List.inj_on_of_nodup_map h.ids_nodup hmem hnode hid
  exact hother

theorem size_of_wellFormed (h : graph.WellFormed) : graph.index.size = graph.nodes.length := by
  have hperm : graph.index.nodes.keys.Perm (graph.nodes.map (·.id)) := by
    rw [List.perm_ext_iff_of_nodup graph.index.nodes.nodup_keys h.ids_nodup]
    intro id
    have hne : id ∈ graph.nodes.map (·.id) → id ≠ "" := by
      intro hid
      obtain ⟨node, hnode, rfl⟩ := List.mem_map.mp hid
      exact h.id_ne_empty node hnode
    rw [SortedMap.mem_keys_iff, ← Option.isSome_iff_exists]
    exact isSome_node?_iff.trans (and_iff_right_of_imp hne)
  rw [size, SortedMap.size, hperm.length_eq, List.length_map]

theorem joins_of_connected {edge : Edge} (h : graph.Connected edge) : graph.index.Joins edge :=
  ⟨isSome_node?_iff.mpr h.1, isSome_node?_iff.mpr h.2⟩

theorem children_of_wellFormed (h : graph.WellFormed) (id : NodeId) :
    graph.index.children id = (graph.edges.filter (·.source = id)).map (·.target) := by
  rw [children_eq]
  congr 1
  apply List.filter_congr
  intro edge hedge
  rw [decide_eq_decide]
  exact and_iff_left (joins_of_connected (h.connected edge hedge))

/-- **An index finds what the graph says.** Under an id the last of its nodes is found, and below a node the
targets of its edges, in their order, except for edges with an end that is not found; so the children of a node
are found as well. In a graph that passes the checks no node and no edge is left out, and the index finds the same
node under an id as a search of the graph. -/
theorem index_finds (graph : Graph) :
    (∀ id, graph.index.node? id = if id = "" then none else graph.nodes.reverse.find? (·.id = id)) ∧
    (∀ id, graph.index.children id =
      (graph.edges.filter fun edge => edge.source = id ∧ graph.index.Joins edge).map (·.target)) ∧
    (∀ id, ∀ child ∈ graph.index.children id, (graph.index.node? child).isSome) ∧
    (graph.checkStructure = .ok () →
      graph.index.size = graph.nodes.length ∧
      (∀ node ∈ graph.nodes, graph.index.node? node.id = some node) ∧
      (∀ id, graph.index.children id = (graph.edges.filter (·.source = id)).map (·.target)) ∧
      ∀ id, graph.index.node? id = graph.node? id) := by
  refine ⟨node?_eq graph, children_eq graph, fun id child hchild => ?_, fun hchecked => ?_⟩
  · obtain ⟨edge, -, ⟨-, -, htarget⟩, rfl⟩ := mem_children_iff.mp hchild
    exact htarget
  · have hgraph : graph.WellFormed := Graph.wellFormed_of_checkStructure hchecked
    exact ⟨size_of_wellFormed hgraph, fun node hnode => node?_of_mem hgraph hnode,
      children_of_wellFormed hgraph, node?_eq_of_wellFormed hgraph⟩

/-- A graph in which two edges lead to one node, with another in between. -/
def braided : Graph :=
  .new
    [.new "start" "telemetry-trigger" .null, .new "light" "condition" .null, .new "horn" "alert" .null]
    [.new "first" "start" "horn", .new "second" "start" "light", .new "third" "start" "horn"]

theorem index_finds_braided :
    braided.checkStructure = .ok () ∧ braided.index.size = 3 ∧
      braided.index.children "start" = ["horn", "light", "horn"] ∧
      braided.index.node? "horn" = some (.new "horn" "alert" .null) := by
  have hchecked : braided.checkStructure = .ok () := by decide
  obtain ⟨-, -, -, hcomplete⟩ := index_finds braided
  obtain ⟨hsize, hnodes, hchildren, -⟩ := hcomplete hchecked
  refine ⟨hchecked, hsize, ?_, hnodes (.new "horn" "alert" .null) (by decide)⟩
  rw [hchildren]
  decide

/-- Of two nodes with one id the later is found, and an edge to a node that is not there is left out. -/
example :
    let stale : Graph :=
      .new [.new "start" "telemetry-trigger" .null, .new "start" "condition" .null, .new "" "alert" .null]
        [.new "first" "start" "gone", .new "second" "start" "start", .new "third" "" "start"]
    stale.index.node? "start" = some (.new "start" "condition" .null) ∧ stale.index.size = 1 ∧
      stale.index.children "start" = ["start"] := by
  decide

end TelemetryAutomation.GraphIndex
