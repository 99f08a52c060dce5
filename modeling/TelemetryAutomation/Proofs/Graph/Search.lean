import Mathlib.Data.List.Perm.Subperm
import Mathlib.Logic.Relation
import TelemetryAutomation.Graph.Structure

/-!
# The search for cycles

`Graph.search` colours nodes without saying so: those on the `path` are grey, the `finished` ones are
black and all others are white. Its correctness rests on one invariant for each colour.

* Every grey node leads to the node that is searched, so an edge back to the path closes a cycle.
* A black node leads only to nodes that were black before it (`Settled`), so no cycle runs through a
  black node.

Main results: `checkAcyclic_eq_ok` (an accepted graph has no cycle) and `checkAcyclic_eq_error` (the
node of an error lies on one).
-/

namespace TelemetryAutomation.Graph

variable {next : NodeId → List NodeId}

/-- A path of at least one step leads from a node to another. -/
def LeadsTo (next : NodeId → List NodeId) : NodeId → NodeId → Prop :=
  Relation.TransGen fun source target => target ∈ next source

/-! ## Finished nodes -/

/-- Every node of a list leads only to nodes behind it in the list. -/
def Settled (next : NodeId → List NodeId) : List NodeId → Prop
  | [] => True
  | id :: rest => (∀ target ∈ next id, target ∈ rest) ∧ Settled next rest

theorem Settled.mem_of_mem_next {finished : List NodeId} (h : Settled next finished)
    {source target : NodeId} (hs : source ∈ finished) (ht : target ∈ next source) :
    target ∈ finished := by
  induction finished with
  | nil => cases hs
  | cons id rest ih =>
    apply List.mem_cons_of_mem
    rcases List.mem_cons.mp hs with rfl | hs
    · exact h.1 target ht
    · exact ih h.2 hs

/-- Paths do not leave a settled list. -/
theorem Settled.mem_of_leadsTo {finished : List NodeId} (h : Settled next finished)
    {source target : NodeId} (hs : source ∈ finished) (hp : LeadsTo next source target) :
    target ∈ finished := by
  induction hp with
  | single ht => exact h.mem_of_mem_next hs ht
  | tail _ ht ih => exact h.mem_of_mem_next ih ht

/-- No cycle runs through a node of a settled list. -/
theorem Settled.acyclic {finished : List NodeId} (h : Settled next finished) {id : NodeId}
    (hid : id ∈ finished) : ¬ LeadsTo next id id := by
  intro hcycle
  induction finished with
  | nil => cases hid
  | cons first rest ih =>
    have hrest : id ∈ rest := by
      rcases List.mem_cons.mp hid with rfl | hid
      · -- the first step of the cycle leaves the head of the list, and no path comes back to it
        obtain ⟨target, ht, hback⟩ := Relation.TransGen.head'_iff.mp hcycle
        have htarget : target ∈ rest := h.1 target ht
        rcases Relation.reflTransGen_iff_eq_or_transGen.mp hback with rfl | hback
        · exact htarget
        · exact h.2.mem_of_leadsTo htarget hback
      · exact hid
    exact ih h.2 hrest

/-! ## One search -/

/-- What a search below some nodes may come to: a node on a cycle, or a longer settled list with all of
the nodes. -/
def Searched (next : NodeId → List NodeId) (ids finished : List NodeId) :
    Except NodeId (List NodeId) → Prop
  | .error id => LeadsTo next id id
  | .ok after => Settled next after ∧ (∀ id ∈ ids, id ∈ after) ∧ ∀ id ∈ finished, id ∈ after

/-- Searches one after the other. -/
theorem searched_foldlM {f : List NodeId → NodeId → Except NodeId (List NodeId)} {ids : List NodeId}
    (hf : ∀ id ∈ ids, ∀ finished, Settled next finished → Searched next [id] finished (f finished id))
    {finished : List NodeId} (h : Settled next finished) :
    Searched next ids finished (ids.foldlM f finished) := by
  induction ids generalizing finished with
  | nil => exact ⟨h, by simp, fun _ hid => hid⟩
  | cons first rest ih =>
    have hfirst := hf first List.mem_cons_self finished h
    rw [List.foldlM_cons]
    cases hm : f finished first with
    | error id =>
      rw [hm] at hfirst
      exact hfirst
    | ok middle =>
      rw [hm] at hfirst
      obtain ⟨hsettled, hmem, hkept⟩ := hfirst
      have hrest := ih (fun id hid => hf id (List.mem_cons_of_mem _ hid)) hsettled
      show Searched next (first :: rest) finished (rest.foldlM f middle)
      cases hr : rest.foldlM f middle with
      | error id =>
        rw [hr] at hrest
        exact hrest
      | ok after =>
        rw [hr] at hrest
        obtain ⟨hsettled', hmem', hkept'⟩ := hrest
        refine ⟨hsettled', ?_, fun id hid => hkept' id (hkept id hid)⟩
        intro id hid
        rcases List.mem_cons.mp hid with rfl | hid
        · exact hkept' _ (hmem _ List.mem_cons_self)
        · exact hmem' id hid

/-- The search below a node. A path without repetitions stays within the nodes, so the fuel does not run
out before the search ends. -/
theorem searched_search {nodes : List NodeId} (hnext : ∀ id ∈ nodes, ∀ target ∈ next id, target ∈ nodes)
    {fuel : Nat} {path finished : List NodeId} {id : NodeId} (hfuel : nodes.length < fuel + path.length)
    (hnodup : path.Nodup) (hpath : ∀ grey ∈ path, grey ∈ nodes ∧ LeadsTo next grey id)
    (hid : id ∈ nodes) (h : Settled next finished) :
    Searched next [id] finished (search next fuel path finished id) := by
  induction fuel generalizing path finished id with
  | zero =>
    -- a path without repetitions is too short to use up the fuel
    have hlength : path.length ≤ nodes.length :=
      (hnodup.subperm fun grey hgrey => (hpath grey hgrey).1).length_le
    omega
  | succ fuel ih =>
    rw [search]
    by_cases hgrey : id ∈ path
    · -- the node was reached from itself
      rw [if_pos hgrey]
      exact (hpath id hgrey).2
    · rw [if_neg hgrey]
      by_cases hblack : id ∈ finished
      · rw [if_pos hblack]
        exact ⟨h, by simpa using hblack, fun _ hid => hid⟩
      · rw [if_neg hblack]
        -- the path grows by the node, and the paths from its nodes grow by an edge
        have hbelow : Searched next (next id) finished
            ((next id).foldlM (search next fuel (id :: path)) finished) := by
          refine searched_foldlM (fun target ht finished hf => ?_) h
          refine ih (by rw [List.length_cons]; omega) (List.nodup_cons.mpr ⟨hgrey, hnodup⟩) ?_
            (hnext id hid target ht) hf
          intro grey hmem
          rcases List.mem_cons.mp hmem with rfl | hmem
          · exact ⟨hid, .single ht⟩
          · exact ⟨(hpath grey hmem).1, (hpath grey hmem).2.tail ht⟩
        cases hs : (next id).foldlM (search next fuel (id :: path)) finished with
        | error cyclic =>
          rw [hs] at hbelow
          exact hbelow
        | ok after =>
          rw [hs] at hbelow
          obtain ⟨hsettled, hmem, hkept⟩ := hbelow
          exact ⟨⟨hmem, hsettled⟩, by simp, fun id hid => List.mem_cons_of_mem _ (hkept id hid)⟩

/-! ## Whole graphs -/

/-- An edge of the graph leads from a node to another. -/
def Leads (graph : Graph) (source target : NodeId) : Prop :=
  ∃ edge ∈ graph.edges, edge.source = source ∧ edge.target = target

theorem mem_successors {graph : Graph} {source target : NodeId} :
    target ∈ graph.successors source ↔ graph.Leads source target := by
  simp [successors, Leads, and_assoc]

theorem leadsTo_successors {graph : Graph} {source target : NodeId} :
    LeadsTo graph.successors source target ↔ Relation.TransGen graph.Leads source target := by
  simp only [LeadsTo, mem_successors]

/-- The search of a whole graph whose edges connect nodes of the graph. -/
theorem searched_nodes {graph : Graph} {ids : List NodeId} (hids : graph.nodes.map (·.id) = ids)
    (hedges : ∀ edge ∈ graph.edges, edge.source ∈ ids ∧ edge.target ∈ ids) :
    Searched graph.successors ids []
      (ids.foldlM (search graph.successors (graph.nodes.length + 1) []) []) := by
  have hnext : ∀ id ∈ ids, ∀ target ∈ graph.successors id, target ∈ ids := by
    intro id _ target ht
    obtain ⟨edge, hedge, -, rfl⟩ := mem_successors.mp ht
    exact (hedges edge hedge).2
  have hlength : ids.length = graph.nodes.length := by rw [← hids, List.length_map]
  refine searched_foldlM (fun id hid finished h => ?_) trivial
  exact searched_search hnext (by rw [List.length_nil]; omega) List.nodup_nil (by simp) hid h

/-- An accepted graph has no cycle. -/
theorem checkAcyclic_eq_ok {graph : Graph}
    (hedges : ∀ edge ∈ graph.edges,
      edge.source ∈ graph.nodes.map (·.id) ∧ edge.target ∈ graph.nodes.map (·.id))
    (h : graph.checkAcyclic = .ok ()) (id : NodeId) : ¬ Relation.TransGen graph.Leads id id := by
  intro hcycle
  have hsearched := searched_nodes rfl hedges
  rw [checkAcyclic] at h
  cases hs : (graph.nodes.map (·.id)).foldlM
      (search graph.successors (graph.nodes.length + 1) []) [] with
  | error cyclic =>
    rw [hs] at h
    cases h
  | ok finished =>
    rw [hs] at hsearched
    -- a cycle starts with an edge, and edges start at nodes, all of which are finished
    obtain ⟨_, ⟨edge, hedge, rfl, -⟩, -⟩ := Relation.TransGen.head'_iff.mp hcycle
    have hfinished := hsearched.2.1 edge.source (hedges edge hedge).1
    exact hsearched.1.acyclic hfinished (leadsTo_successors.mpr hcycle)

/-- The node of an error lies on a cycle. -/
theorem checkAcyclic_eq_error {graph : Graph}
    (hedges : ∀ edge ∈ graph.edges,
      edge.source ∈ graph.nodes.map (·.id) ∧ edge.target ∈ graph.nodes.map (·.id))
    {id : NodeId} (h : graph.checkAcyclic = .error id) : Relation.TransGen graph.Leads id id := by
  have hsearched := searched_nodes rfl hedges
  rw [checkAcyclic] at h
  cases hs : (graph.nodes.map (·.id)).foldlM
      (search graph.successors (graph.nodes.length + 1) []) [] with
  | error cyclic =>
    rw [hs] at h hsearched
    cases h
    exact leadsTo_successors.mp hsearched
  | ok finished =>
    rw [hs] at h
    cases h

end TelemetryAutomation.Graph
