import TelemetryAutomation.Proofs.Run.Traversal

/-!
# Which triggers a run completes

A run starts its branches at the triggers that listen to the record, and completes these. A trigger that
comes up below another one is passed over or refused. So the completed triggers of a run are those at
which its branches start.
-/

namespace TelemetryAutomation

variable {σ : Type}

/-- Whether a visit completed a telemetry trigger. -/
def Visit.completesTrigger (visit : Visit) : Bool :=
  visit.status = .completed && NodeKind.ofName? visit.nodeType = some .telemetryTrigger

/-- Whether a step tells of a telemetry trigger that was completed. -/
def StepSummary.completesTrigger (summary : StepSummary) : Bool :=
  summary.status = .completed && NodeKind.ofName? summary.nodeType = some .telemetryTrigger

namespace Execution

variable {services : Services σ} {run : Run}

/-- No trigger is completed below another. -/
theorem walk_completesTrigger (index : GraphIndex) (stack : List Frame) :
    (Walk.walk services run index stack).Yields fun visits =>
      ∀ visit ∈ visits, visit.completesTrigger = false := by
  refine Walk.walk_yields (fun _ => True) ?_ ?_ fun _ _ => trivial
  · intro frame node kind _ _ _ _ visit hrecords
    rw [Visit.completesTrigger, hrecords.status_eq]
    rfl
  · intro frame node kind _ _ hkind _
    have houtcome : (node.execute services run kind frame.context).Yields fun outcome =>
        kind = .telemetryTrigger → outcome.status ≠ .completed := by
      intro world hkind'
      subst hkind'
      exact nofun
    refine houtcome.mono fun outcome houtcome => ⟨?_, fun _ _ _ _ => trivial⟩
    intro visit hrecords
    rw [Visit.completesTrigger, hrecords.status_eq, hrecords.nodeType_eq, Bool.and_eq_false_iff,
      decide_eq_false_iff_not, decide_eq_false_iff_not]
    by_cases htrigger : kind = .telemetryTrigger
    · exact .inl (houtcome htrigger)
    · refine .inr ?_
      show node.kind? ≠ some .telemetryTrigger
      rw [hkind]
      exact fun h => htrigger (Option.some.inj h)

theorem completedTriggers_of_branches {record : TelemetryRecord} {triggers : List TriggerMatch}
    {branches : List (List Visit)}
    (hkind : ∀ trigger ∈ triggers, trigger.node.kind? = some .telemetryTrigger)
    (h : List.Forall₂ (BranchOf record (·.completesTrigger = false)) triggers branches) :
    (branches.flatten.filter (·.completesTrigger)).map (·.node) = triggers.map (·.node.id) := by
  induction h with
  | nil => rfl
  | @cons trigger branch triggers branches hbranch _ ih =>
    obtain ⟨htrigger, hrest⟩ := List.forall_mem_cons.mp hkind
    obtain ⟨started, below, rfl, hstarted, hbelow⟩ := hbranch
    have hcompletes : started.completesTrigger := by
      rw [Visit.completesTrigger, hstarted.status_eq, hstarted.nodeType_eq, Bool.and_eq_true,
        decide_eq_true_eq, decide_eq_true_eq]
      exact ⟨rfl, htrigger⟩
    -- of a branch only the first visit counts
    have hnone : below.filter (·.completesTrigger) = [] := by
      rw [List.filter_eq_nil_iff]
      intro visit hvisit
      rw [hbelow visit hvisit]
      exact Bool.false_ne_true
    rw [List.flatten_cons, List.filter_append, List.filter_cons_of_pos hcompletes, hnone,
      List.map_append, ih hrest, List.map_cons, List.map_cons, hstarted.node_eq]
    rfl

/-- Where a step stands in a run does not matter for whether it tells of a completed trigger. -/
theorem completedTriggers_mapIdx {summarize : Nat → Visit → StepSummary}
    (hnode : ∀ i visit, (summarize i visit).node = visit.node)
    (htest : ∀ i visit, (summarize i visit).completesTrigger = visit.completesTrigger)
    (visits : List Visit) :
    ((visits.mapIdx summarize).filter (·.completesTrigger)).map (·.node) =
      (visits.filter (·.completesTrigger)).map (·.node) := by
  induction visits generalizing summarize with
  | nil => rfl
  | cons visit rest ih =>
    have hrest := ih (fun i => hnode (i + 1)) fun i => htest (i + 1)
    rw [List.mapIdx_cons, List.filter_cons, List.filter_cons, htest]
    by_cases hcompletes : visit.completesTrigger
    · rw [if_pos hcompletes, if_pos hcompletes, List.map_cons, List.map_cons, hnode, hrest]
    · rw [if_neg hcompletes, if_neg hcompletes, hrest]

/-- **A run completes the triggers that listen to its record**, in the order of the nodes, and no
others. -/
theorem execute_completesTriggers {version : WorkflowVersion} {record : TelemetryRecord}
    (correlation : CorrelationId) {graph : Graph} {triggers : List TriggerMatch}
    (hgraph : version.readGraph = .ok graph)
    (hmatch : matchTriggers services.catalog graph record = .ok triggers) :
    (execute services run version record correlation).Yields fun answer =>
      ∃ result, answer = .ok result ∧ result.status.isTerminal ∧
        (result.summaries.filter (·.completesTrigger)).map (·.node) =
          (graph.nodes.filter (startsAt services.catalog record)).map (·.id) := by
  have hnodes := nodes_matchTriggers hmatch
  have hkind : ∀ trigger ∈ triggers, trigger.node.kind? = some .telemetryTrigger := by
    intro trigger htrigger
    have hmem : trigger.node ∈ triggers.map (·.node) := List.mem_map_of_mem htrigger
    rw [hnodes, List.mem_filter, startsAt, Bool.and_eq_true, decide_eq_true_eq] at hmem
    exact hmem.2.1
  have hexecute : (execute services run version record correlation).Yields _ :=
    execute_yields correlation hgraph hmatch fun trigger _ => walk_completesTrigger _ _
  refine hexecute.mono ?_
  rintro _ ⟨result, branches, rfl, hterminal, hbranches, hsteps⟩
  refine ⟨result, rfl, hterminal, ?_⟩
  have hsummaries : result.summaries =
      branches.flatten.mapIdx fun i visit => (stepOf run correlation i visit).summary := by
    rw [ExecutionResult.summaries, hsteps, List.mapIdx_eq_zipIdx_map, List.mapIdx_eq_zipIdx_map,
      List.map_map]
    rfl
  rw [hsummaries, completedTriggers_mapIdx (fun _ _ => rfl) (fun _ _ => rfl),
    completedTriggers_of_branches hkind hbranches, ← hnodes, List.map_map]
  rfl

end Execution

end TelemetryAutomation
