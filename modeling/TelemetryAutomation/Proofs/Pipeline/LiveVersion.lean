import TelemetryAutomation.Proofs.Pipeline.Entries
import TelemetryAutomation.Proofs.Run.Triggers

/-!
# Live versions

The live versions of a state are the active ones of its workflows. If the state is consistent, then the
rows of the index lead to those of them that have a trigger for a record (`covers_iff_hears`), and each
can be run and completes the triggers that hear the record (`runIfLive_succeeds`).
-/

namespace TelemetryAutomation

open Success (Succeeds)

variable {σ : Type}

/-- A graph is live under a version if the version is stored with it and is the active version of a
stored workflow. -/
def PipelineState.IsLive (state : PipelineState σ) (id : Key .workflowVersion) (graph : Graph) :
    Prop :=
  ∃ key workflow version, state.workflows.workflows.get? key = some workflow ∧
    workflow.activeVersion = some id ∧ state.workflows.versions.get? id = some version ∧
    version.readGraph = .ok graph

namespace Pipeline

variable {pipeline : Pipeline σ} {owner : Key .workflowVersion → Option (Key .workflow)}
  {state : PipelineState σ} {id : Key .workflowVersion} {graph : Graph} {record : TelemetryRecord}

/-! ## What the index leads to -/

namespace Consistent

/-- A live version is the active one of its workflow, and the index holds its rows. -/
theorem isLive_iff (hstate : Consistent pipeline owner state) :
    state.IsLive id graph ↔
      ∃ key workflow version rows, state.workflows.workflows.get? key = some workflow ∧
        Active pipeline owner state key workflow version graph rows ∧ version.id = id := by
  constructor
  · rintro ⟨key, workflow, version, hworkflow, hactive, hversion, hgraph⟩
    obtain ⟨version', graph', rows, h⟩ := hstate.active hworkflow
    have hid : version'.id = id := by
      rw [h.active_eq, Option.some.injEq] at hactive
      exact hactive
    have hversion' : version' = version := by
      have heq := h.version_eq
      rw [hid, hversion, Option.some.injEq] at heq
      exact heq.symm
    subst hversion'
    have hgraph' : graph' = graph := by
      have heq := (checkedGraph_eq_ok.mp h.graph_eq).1
      rw [hgraph, Except.ok.injEq] at heq
      exact heq.symm
    subst hgraph'
    exact ⟨key, workflow, version', rows, hworkflow, h, hid⟩
  · rintro ⟨key, workflow, version, rows, hworkflow, h, rfl⟩
    exact ⟨key, workflow, version, hworkflow, h.active_eq, h.version_eq,
      (checkedGraph_eq_ok.mp h.graph_eq).1⟩

/-- A row of the index is one of those of an active version. -/
theorem active_of_mem_rows (hstate : Consistent pipeline owner state) {row : TriggerRow}
    (hrow : row ∈ state.index.rows) :
    ∃ key workflow version graph rows, state.workflows.workflows.get? key = some workflow ∧
      Active pipeline owner state key workflow version graph rows ∧
      version.id = row.workflowVersion ∧ row ∈ rows := by
  obtain ⟨key, workflow, hworkflow, hactive⟩ := hstate.listed row hrow
  obtain ⟨version, graph, rows, h⟩ := hstate.active hworkflow
  rw [h.active_eq, Option.some.injEq] at hactive
  refine ⟨key, workflow, version, graph, rows, hworkflow, h, hactive, ?_⟩
  rw [← h.rows_eq, List.mem_filter]
  exact ⟨hrow, by simpa using hactive.symm⟩

theorem filter_eq_none (hstate : Consistent pipeline owner state) {row : TriggerRow}
    (hrow : row ∈ state.index.rows) : row.filter = none := by
  obtain ⟨_, _, _, _, _, -, h, -, hmem⟩ := hstate.active_of_mem_rows hrow
  obtain ⟨-, -, hnodes⟩ := checkedGraph_eq_ok.mp h.graph_eq
  obtain ⟨_, _, _, _, _, _, _, _, rfl⟩ := Trigger.resolves_of_mem_rows hnodes h.compiled_eq hmem
  rfl

/-- Matching against the rows of the index finds the live versions with a trigger that hears the
record. -/
theorem covers_iff_hears (hstate : Consistent pipeline owner state)
    (hcatalog : pipeline.services.catalog.Faithful) :
    (∃ device, pipeline.services.catalog.device record.device = .ok (some device) ∧
        ∃ row ∈ state.index.rows, row.covers (Trigger.scopeOf device record) ∧
          row.workflowVersion = id) ↔
      ∃ graph, state.IsLive id graph ∧ ∃ node ∈ graph.nodes, node.hears record := by
  constructor
  · rintro ⟨device, hdevice, row, hrow, hcovers, rfl⟩
    obtain ⟨key, workflow, version, graph, rows, hworkflow, h, hid, hmem⟩ :=
      hstate.active_of_mem_rows hrow
    obtain ⟨-, -, hnodes⟩ := checkedGraph_eq_ok.mp h.graph_eq
    have hhears := (Trigger.exists_covers_iff hcatalog hnodes h.compiled_eq hdevice).mp
      ⟨row, hmem, hcovers⟩
    exact ⟨graph, hstate.isLive_iff.mpr ⟨key, workflow, version, rows, hworkflow, h, hid⟩, hhears⟩
  · rintro ⟨graph, hlive, node, hmem, hhears⟩
    obtain ⟨key, workflow, version, rows, hworkflow, h, rfl⟩ := hstate.isLive_iff.mp hlive
    obtain ⟨-, -, hnodes⟩ := checkedGraph_eq_ok.mp h.graph_eq
    obtain ⟨device, hdevice⟩ := Trigger.exists_device_of_hears hnodes hmem hhears
    obtain ⟨row, hrow, hcovers⟩ :=
      (Trigger.exists_covers_iff hcatalog hnodes h.compiled_eq hdevice).mpr ⟨node, hmem, hhears⟩
    rw [← h.rows_eq, List.mem_filter, decide_eq_true_eq] at hrow
    exact ⟨device, hdevice, row, hrow.1, hcovers, hrow.2⟩

end Consistent

/-! ## Runs of live versions -/

/-- The state while a record is handled: the workflows are as they were at the beginning, and so many
runs have been started. -/
structure Serving (base : PipelineState σ) (started : Nat) (state : PipelineState σ) : Prop where
  workflows_eq : state.workflows.workflows = base.workflows.workflows
  versions_eq : state.workflows.versions = base.workflows.versions
  workflows_reliable : state.workflows.Reliable
  runs_reliable : state.runs.outages.Reliable
  nextId_eq : state.runs.nextId = .ofNat (started + 1)

/-- Nothing but the correlations and the world has changed. -/
structure SameStores (before after : PipelineState σ) : Prop where
  index_eq : after.index = before.index
  workflows_eq : after.workflows = before.workflows
  runs_eq : after.runs = before.runs

theorem drawCorrelation_succeeds (state : PipelineState σ) :
    Succeeds PipelineAction.drawCorrelation state fun _ after => SameStores state after :=
  .of_eq rfl ⟨rfl, rfl, rfl⟩

/-- A live version is found with its workflow. -/
theorem liveVersion?_succeeds {workflow : Workflow} {version : WorkflowVersion}
    (hreliable : state.workflows.Reliable) (hlive : state.workflows.Live id workflow version) :
    Succeeds (liveVersion? id) state fun found after =>
      found = some (workflow, version) ∧
        ∃ workflows, state.workflows.Agrees workflows ∧ after = { state with workflows } := by
  have hnever : ∀ (error : PipelineError) (after : PipelineState σ),
      ¬ ((∃ cause, error = .repository cause) ∧ ¬ state.workflows.outages.Reliable ∧
        ∃ workflows, state.workflows.Agrees workflows ∧ after = { state with workflows }) :=
    fun _ _ h => h.2.1 hreliable.outages
  obtain ⟨found, after, hfind, hfound, hafter⟩ := (liveVersion?_finds state id).succeeds hnever
  refine ⟨found, after, hfind, ?_, hafter⟩
  exact (hfound workflow version).mpr ⟨hreliable.current, hlive⟩

/-- A run that could be executed ends as its result says. -/
theorem runVersion_succeeds {workflow : Workflow} {version : WorkflowVersion}
    {property : ExecutionResult → Prop} (event : CorrelationId)
    (hreliable : state.runs.outages.Reliable) (hkey : 0 < state.runs.nextId)
    (hexecute : ∀ run correlation,
      (Execution.execute pipeline.services run version record correlation).Yields fun answer =>
        ∃ result, answer = .ok result ∧ result.status.isTerminal ∧ property result) :
    Succeeds (pipeline.runVersion workflow id version record event) state fun outcome after =>
      outcome.run.workflowVersion = id ∧
        (∃ result, property result ∧ outcome.steps = result.summaries) ∧
        after.workflows = state.workflows ∧ after.runs.outages.Reliable ∧
        after.runs.nextId = state.runs.nextId + 1 := by
  have hnever : ∀ (error : PipelineError) (after : PipelineState σ),
      ¬ ((∃ cause, error = .repository cause) ∧
        pipeline.BreaksOff workflow id version record state after) := by
    rintro _ _ ⟨-, hbreaks⟩
    cases hbreaks with
    | unstarted _ _ cause => exact cause hreliable hkey
    | unended _ _ _ _ _ _ cause => exact cause hreliable
  obtain ⟨_, after, hrun, started, entry, henters, rfl⟩ :=
    (runVersion_enters workflow id version record event state).succeeds hnever
  obtain ⟨answer, left, ⟨-, hexecuted⟩, htells, -⟩ := henters.tells
  -- the answer is one that the execution can give
  obtain ⟨result, hresult, -, hproperty⟩ := hexecute started state.correlations.draw.1
    (Action.now state.world).2
  have hanswer : answer = .ok result := (congrArg Prod.fst hexecuted).symm.trans hresult
  obtain ⟨-, -, hsteps⟩ := htells.executed result hanswer
  refine ⟨entry.outcome, after, hrun, henters.isRunOf.1, ⟨result, hproperty, ?_⟩,
    henters.elsewhere.workflows_eq, hreliable.of_plan_eq henters.runs.plan_eq,
    henters.runs.nextId_eq⟩
  rw [RunEntry.outcome, hsteps, ExecutionResult.summaries]

/-- An outcome of running a version for a record: the run completed the triggers that hear it. -/
structure Ran (base : PipelineState σ) (record : TelemetryRecord) (id : Key .workflowVersion)
    (outcome : RunOutcome) : Prop where
  version_eq : outcome.run.workflowVersion = id
  completes : ∃ graph, base.IsLive id graph ∧
    (outcome.steps.filter (·.completesTrigger)).map (·.node) =
      (graph.nodes.filter (·.hears record)).map (·.id)

/-- A live version is run if there is a key left for the run. -/
theorem runIfLive_succeeds {base : PipelineState σ} {started : Nat}
    (hbase : Consistent pipeline owner base) (hcatalog : pipeline.services.catalog.Faithful)
    (hlive : base.IsLive id graph) (event : CorrelationId) (hstate : Serving base started state)
    (hkey : 0 < Int64.ofNat (started + 1)) :
    Succeeds (pipeline.runIfLive record event id) state fun found after =>
      (∃ outcome, found = some outcome ∧ Ran base record id outcome) ∧
        Serving base (started + 1) after := by
  obtain ⟨key, workflow, version, rows, hworkflow, hactive, rfl⟩ := hbase.isLive_iff.mp hlive
  obtain ⟨hgraph, hstructure, hnodes⟩ := checkedGraph_eq_ok.mp hactive.graph_eq
  have hids := (Graph.wellFormed_of_checkStructure hstructure).id_ne_empty
  obtain ⟨triggers, hmatch⟩ := Trigger.exists_matchTriggers hnodes record
  have hfound : state.workflows.Live version.id workflow version := by
    refine ⟨?_, ?_, hactive.active_eq⟩
    · rw [hstate.versions_eq, hactive.version_eq]
    · rw [hstate.workflows_eq, hactive.of_eq, hworkflow]
  unfold runIfLive
  apply (liveVersion?_succeeds hstate.workflows_reliable hfound).bind
  rintro _ _ ⟨rfl, store, hstore, rfl⟩
  have hlooked : Serving base started { state with workflows := store } := by
    refine ⟨hstore.workflows_eq.trans hstate.workflows_eq,
      hstore.versions_eq.trans hstate.versions_eq, ⟨?_, ?_⟩, hstate.runs_reliable, hstate.nextId_eq⟩
    · rw [hstore.lags_eq, hstate.workflows_reliable.current]
    · exact hstate.workflows_reliable.outages.of_plan_eq hstore.plan_eq
  rw [← hlooked.nextId_eq] at hkey
  show Succeeds (pipeline.runVersion workflow version.id version record event >>= _) _ _
  refine (runVersion_succeeds event hlooked.runs_reliable hkey
    fun run correlation => Execution.execute_completesTriggers correlation hgraph hmatch).bind ?_
  rintro outcome after ⟨hversion', ⟨result, hcompletes, hsteps⟩, hworkflows, hreliable, hnext⟩
  rw [Trigger.filter_startsAt_eq hcatalog hnodes hids, ← hsteps] at hcompletes
  have hafter : Serving base (started + 1) after := by
    refine ⟨?_, ?_, ?_, hreliable, ?_⟩
    · rw [hworkflows]
      exact hlooked.workflows_eq
    · rw [hworkflows]
      exact hlooked.versions_eq
    · rw [hworkflows]
      exact hlooked.workflows_reliable
    · rw [hnext, hlooked.nextId_eq, Int64.ofNat_add (started + 1)]
      rfl
  exact .pure ⟨⟨outcome, rfl, hversion', graph, hlive, hcompletes⟩, hafter⟩

end Pipeline

end TelemetryAutomation
