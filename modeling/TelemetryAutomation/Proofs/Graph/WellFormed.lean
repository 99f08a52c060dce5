import TelemetryAutomation.Proofs.Graph.Search

/-!
# The accepted graphs are the well-formed ones

`WellFormed` says what a graph has to be, and `Fault` what is wrong with one that is not: each fault
presupposes that the ones checked before it are absent, and names the first place where it occurs.

Main result: `checkStructure_spec`. It is put together from one lemma for each check.
-/

namespace TelemetryAutomation.Graph

/-! ## Ids -/

/-- All nodes have ids, which differ from each other and from those seen before. -/
def FreshIds (seen : List NodeId) (nodes : List Node) : Prop :=
  (∀ node ∈ nodes, node.id ≠ "" ∧ node.id ∉ seen) ∧ (nodes.map (·.id)).Nodup

theorem freshIds_cons {seen : List NodeId} {node : Node} {rest : List Node} :
    FreshIds seen (node :: rest) ↔
      (node.id ≠ "" ∧ node.id ∉ seen) ∧ FreshIds (node.id :: seen) rest := by
  simp only [FreshIds, List.map_cons, List.nodup_cons, List.mem_cons, List.mem_map]
  constructor
  · rintro ⟨hall, hnew, hnodup⟩
    refine ⟨hall node (.inl rfl), fun other hother => ?_, hnodup⟩
    have hseen := hall other (.inr hother)
    refine ⟨hseen.1, ?_⟩
    rintro (hsame | hmem)
    · exact hnew ⟨other, hother, hsame⟩
    · exact hseen.2 hmem
  · rintro ⟨hnode, hrest, hnodup⟩
    refine ⟨?_, ?_, hnodup⟩
    · rintro other (rfl | hother)
      · exact hnode
      · exact ⟨(hrest other hother).1, fun hmem => (hrest other hother).2 (.inr hmem)⟩
    · rintro ⟨other, hother, hsame⟩
      exact (hrest other hother).2 (.inl hsame)

/-- The ids are accepted if all of them are fresh. Otherwise the error is about the first node whose id
is missing or taken. -/
theorem checkIds_spec (seen : List NodeId) (index : Nat) (nodes : List Node) :
    match checkIds seen index nodes with
    | .ok () => FreshIds seen nodes
    | .error error => ∃ before node after, nodes = before ++ node :: after ∧ FreshIds seen before ∧
        (node.id = "" ∨ node.id ∈ seen ∨ node.id ∈ before.map (·.id)) ∧
        error = .duplicateOrMissingId (index + before.length) node.id := by
  induction nodes generalizing seen index with
  | nil => exact ⟨by simp, List.nodup_nil⟩
  | cons node rest ih =>
    rw [checkIds]
    by_cases hbad : node.id.isEmpty ∨ node.id ∈ seen
    · rw [if_pos hbad]
      refine ⟨[], node, rest, rfl, ⟨by simp, List.nodup_nil⟩, ?_, rfl⟩
      exact hbad.imp String.isEmpty_iff.mp .inl
    · rw [if_neg hbad]
      have hfresh : node.id ≠ "" ∧ node.id ∉ seen := by
        simpa [String.isEmpty_iff] using hbad
      have hrest := ih (node.id :: seen) (index + 1)
      cases hc : checkIds (node.id :: seen) (index + 1) rest with
      | ok _ =>
        rw [hc] at hrest
        exact freshIds_cons.mpr ⟨hfresh, hrest⟩
      | error error =>
        rw [hc] at hrest
        obtain ⟨before, other, after, rfl, hbefore, hother, rfl⟩ := hrest
        refine ⟨node :: before, other, after, rfl, freshIds_cons.mpr ⟨hfresh, hbefore⟩, ?_, ?_⟩
        · simp only [List.mem_cons, List.map_cons] at hother ⊢
          tauto
        · rw [List.length_cons, Nat.add_assoc, Nat.add_comm 1]

/-! ## Triggers and edges -/

/-- Runs start at a node of the graph. -/
def HasTrigger (graph : Graph) : Prop :=
  ∃ node ∈ graph.nodes,
    node.kind? = some .telemetryTrigger ∨ node.kind? = some .scheduleTrigger

theorem any_isTrigger_iff {graph : Graph} : graph.nodes.any (·.isTrigger) ↔ graph.HasTrigger := by
  have hkind : ∀ node : Node, node.isTrigger ↔
      node.kind? = some .telemetryTrigger ∨ node.kind? = some .scheduleTrigger := by
    intro node
    rw [Node.isTrigger]
    cases node.kind? with
    | none => simp
    | some kind => cases kind <;> simp [NodeKind.isTrigger]
  simp [HasTrigger, List.any_eq_true, hkind]

/-- Both ends of an edge are named, and they are nodes of the graph. -/
def Connected (graph : Graph) (edge : Edge) : Prop :=
  (edge.source ≠ "" ∧ edge.source ∈ graph.nodes.map (·.id)) ∧
    edge.target ≠ "" ∧ edge.target ∈ graph.nodes.map (·.id)

theorem connects_iff {graph : Graph} {edge : Edge} :
    connects (graph.nodes.map (·.id)) edge ↔ graph.Connected edge := by
  simp only [connects, Connected, Edge.source?, Edge.target?, Bool.and_eq_true]
  split <;> split <;> simp_all [String.isEmpty_iff]

/-! ## Whole graphs -/

/-- What a graph has to be. -/
structure WellFormed (graph : Graph) : Prop where
  nodes_ne_nil : graph.nodes ≠ []
  id_ne_empty : ∀ node ∈ graph.nodes, node.id ≠ ""
  ids_nodup : (graph.nodes.map (·.id)).Nodup
  hasTrigger : graph.HasTrigger
  connected : ∀ edge ∈ graph.edges, graph.Connected edge
  /-- No path of at least one edge leads from a node back to it. -/
  acyclic : ∀ id, ¬ Relation.TransGen graph.Leads id id

/-- What is wrong with a graph, in the order of the checks. -/
inductive Fault (graph : Graph) : StructuralError → Prop
  | duplicateOrMissingId {before after : List Node} {node : Node}
      (nodes : graph.nodes = before ++ node :: after) (ids : FreshIds [] before)
      (fault : node.id = "" ∨ node.id ∈ before.map (·.id)) :
      Fault graph (.duplicateOrMissingId before.length node.id)
  | empty (fault : graph.nodes = []) : Fault graph .empty
  | noTrigger (ids : FreshIds [] graph.nodes) (nodes : graph.nodes ≠ [])
      (fault : ¬ graph.HasTrigger) : Fault graph .noTrigger
  | danglingEdge {before after : List Edge} {edge : Edge} (ids : FreshIds [] graph.nodes)
      (trigger : graph.HasTrigger) (edges : graph.edges = before ++ edge :: after)
      (connected : ∀ other ∈ before, graph.Connected other) (fault : ¬ graph.Connected edge) :
      Fault graph (.danglingEdge edge.id edge.source edge.target)
  | cycle {id : NodeId} (ids : FreshIds [] graph.nodes) (trigger : graph.HasTrigger)
      (connected : ∀ edge ∈ graph.edges, graph.Connected edge)
      (fault : Relation.TransGen graph.Leads id id) : Fault graph (.cycle id)

/-- A graph with a fault is not well formed. -/
theorem Fault.not_wellFormed {graph : Graph} {error : StructuralError} (h : graph.Fault error) :
    ¬ graph.WellFormed := by
  intro hgraph
  cases h with
  | @duplicateOrMissingId before after node hnodes _ hfault =>
    have hnode : node ∈ graph.nodes := by rw [hnodes]; simp
    have hids := hgraph.ids_nodup
    rw [hnodes, List.map_append, List.map_cons, List.nodup_append] at hids
    rcases hfault with hempty | hbefore
    · exact hgraph.id_ne_empty node hnode hempty
    · exact hids.2.2 _ hbefore _ List.mem_cons_self rfl
  | empty hfault => exact hgraph.nodes_ne_nil hfault
  | noTrigger _ _ hfault => exact hfault hgraph.hasTrigger
  | @danglingEdge before after edge _ _ hedges _ hfault =>
    exact hfault (hgraph.connected edge (by rw [hedges]; simp))
  | cycle _ _ _ hfault => exact hgraph.acyclic _ hfault

/-- Once the nodes have passed, the edges decide. -/
theorem checkStructure_of_nodes {graph : Graph} (hids : checkIds [] 0 graph.nodes = .ok ())
    (hnodes : graph.nodes ≠ []) (htrigger : graph.HasTrigger) :
    graph.checkStructure =
      match graph.edges.find? (!connects (graph.nodes.map (·.id)) ·) with
      | some edge => .error (.danglingEdge edge.id edge.source edge.target)
      | none => graph.checkAcyclic.mapError .cycle := by
  have hempty : graph.nodes.isEmpty = false := by simpa using hnodes
  rw [checkStructure, hids, hempty, any_isTrigger_iff.mpr htrigger]
  rfl

/-- All checks, one after the other. -/
theorem checkStructure_cases (graph : Graph) :
    match graph.checkStructure with
    | .ok () => graph.WellFormed
    | .error error => graph.Fault error := by
  have hchecked := checkIds_spec [] 0 graph.nodes
  cases hids : checkIds [] 0 graph.nodes with
  | error error =>
    rw [hids] at hchecked
    obtain ⟨before, node, after, hnodes, hbefore, hfault, rfl⟩ := hchecked
    rw [Nat.zero_add] at hids
    have hcheck : graph.checkStructure = .error (.duplicateOrMissingId before.length node.id) := by
      rw [checkStructure, hids]
      rfl
    rw [hcheck]
    exact .duplicateOrMissingId hnodes hbefore (by simpa using hfault)
  | ok _ =>
    rw [hids] at hchecked
    by_cases hnodes : graph.nodes = []
    · have hcheck : graph.checkStructure = .error .empty := by
        rw [checkStructure, hids, hnodes]
        rfl
      rw [hcheck]
      exact .empty hnodes
    by_cases htrigger : graph.HasTrigger
    · rw [checkStructure_of_nodes hids hnodes htrigger]
      cases hfind : graph.edges.find? (!connects (graph.nodes.map (·.id)) ·) with
      | some edge =>
        obtain ⟨hedge, before, after, hedges, hbefore⟩ := List.find?_eq_some_iff_append.mp hfind
        refine .danglingEdge hchecked htrigger hedges ?_ ?_
        · intro other hother
          exact connects_iff.mp (by simpa using hbefore other hother)
        · rw [← connects_iff]
          simpa using hedge
      | none =>
        have hconnected : ∀ edge ∈ graph.edges, graph.Connected edge := by
          intro edge hedge
          exact connects_iff.mp (by simpa using List.find?_eq_none.mp hfind edge hedge)
        have hends := fun edge hedge =>
          And.intro (hconnected edge hedge).1.2 (hconnected edge hedge).2.2
        cases hcheck : graph.checkAcyclic with
        | ok _ =>
          exact ⟨hnodes, fun node hnode => (hchecked.1 node hnode).1, hchecked.2, htrigger,
            hconnected, checkAcyclic_eq_ok hends hcheck⟩
        | error id => exact .cycle hchecked htrigger hconnected (checkAcyclic_eq_error hends hcheck)
    · have hnone : graph.nodes.any (·.isTrigger) = false :=
        Bool.eq_false_iff.mpr (mt any_isTrigger_iff.mp htrigger)
      have hempty : graph.nodes.isEmpty = false := by simpa using hnodes
      have hcheck : graph.checkStructure = .error .noTrigger := by
        rw [checkStructure, hids, hempty, hnone]
        rfl
      rw [hcheck]
      exact .noTrigger hchecked hnodes htrigger

theorem wellFormed_of_checkStructure {graph : Graph} (h : graph.checkStructure = .ok ()) :
    graph.WellFormed := by
  have hcases := checkStructure_cases graph
  rw [h] at hcases
  exact hcases

/-- **The checks accept exactly the well-formed graphs**, and an error tells the truth: it names the
first fault in the order of the checks, and the node of a cycle error lies on a cycle. -/
theorem checkStructure_spec (graph : Graph) :
    (graph.checkStructure = .ok () ↔ graph.WellFormed) ∧
      ∀ error, graph.checkStructure = .error error → graph.Fault error := by
  have hcases := checkStructure_cases graph
  cases hcheck : graph.checkStructure with
  | ok _ =>
    rw [hcheck] at hcases
    exact ⟨⟨fun _ => hcases, fun _ => rfl⟩, nofun⟩
  | error error =>
    rw [hcheck] at hcases
    refine ⟨⟨nofun, fun hgraph => absurd hgraph hcases.not_wellFormed⟩, ?_⟩
    rintro _ ⟨⟩
    exact hcases

/-- A graph with a cycle that no trigger leads to. -/
def strayCycle : Graph :=
  .new
    [.new "start" "telemetry-trigger" .null, .new "light" "condition" .null,
      .new "horn" "alert" .null]
    [.new "on" "light" "horn", .new "again" "horn" "light"]

theorem strayCycle_fault :
    strayCycle.checkStructure = .error (.cycle "light") ∧ strayCycle.Fault (.cycle "light") := by
  have hcheck : strayCycle.checkStructure = .error (.cycle "light") := by decide
  exact ⟨hcheck, (checkStructure_spec strayCycle).2 _ hcheck⟩

end TelemetryAutomation.Graph
