import TelemetryAutomation.Pipeline.Publish
import TelemetryAutomation.Proofs.Graph.WellFormed
import TelemetryAutomation.Proofs.Pipeline.Tables
import TelemetryAutomation.Proofs.Trigger.Rows

/-!
# Histories of publications

A publication that is refused leaves the state as it is. One that is accepted makes the version the
active one of its workflow, and puts its rows in the stead of those of the version that was active
before. So after any history of publications the index holds the rows of the active versions and no
others (`Consistent`).
-/

namespace TelemetryAutomation

open Success (run_bind_of_ok run_bind_of_error)

variable {σ : Type}

namespace PipelineAction

variable {α : Type} {state : PipelineState σ}

theorem onIndex_of_ok {act : IndexAction α} {value : α} {index : TriggerIndex}
    (h : act state.index = (.ok value, index)) :
    onIndex act state = (.ok value, { state with index }) := by
  rw [onIndex, h]
  rfl

theorem onWorkflows_of_ok {act : WorkflowAction α} {value : α} {workflows : WorkflowStore}
    (h : act state.workflows = (.ok value, workflows)) :
    onWorkflows act state = (.ok value, { state with workflows }) := by
  rw [onWorkflows, h]
  rfl

theorem onRuns_of_ok {act : RunAction α} {value : α} {runs : RunStore}
    (h : act state.runs = (.ok value, runs)) :
    onRuns act state = (.ok value, { state with runs }) := by
  rw [onRuns, h]
  rfl

end PipelineAction

namespace Trigger

/-- Compiling puts the rows of a graph in the stead of those that its version had. -/
theorem run_compile {catalog : Catalog} {organization : Key .organization}
    {version : Key .workflowVersion} {graph : Graph} {compiled : List TriggerRow}
    {index : TriggerIndex} (hindex : index.outages.Reliable)
    (hrows : rows catalog organization version graph = .ok compiled) :
    ∃ result, compile catalog organization version graph index =
      (.ok result, { index.counted.counted with
        rows := index.rows.filter (·.workflowVersion ≠ version) ++ compiled }) := by
  obtain ⟨deleted, hdelete⟩ := TriggerIndex.run_delete hindex version
  let kept : TriggerIndex :=
    { index.counted with rows := index.rows.filter (·.workflowVersion ≠ version) }
  have hkept : kept.outages.Reliable := hindex.counted
  have hinsert := TriggerIndex.run_insert hkept compiled
  refine ⟨{ deleted, inserted := compiled.length }, ?_⟩
  simp only [compile, hrows]
  rw [run_bind_of_ok hdelete, run_bind_of_ok hinsert]
  rfl

end Trigger

namespace Pipeline

variable {pipeline : Pipeline σ} {workflow : Workflow} {version : WorkflowVersion}
  {state : PipelineState σ}

/-- A refused publication leaves the state as it is. -/
theorem publish_of_error {error : PipelineError}
    (h : pipeline.checkedGraph workflow version = .error error) :
    pipeline.publish workflow version state = (.error error, state) := by
  rw [publish, h]
  rfl

/-- The version whose rows a publication deletes. -/
def superseded? (state : PipelineState σ) (workflow : Key .workflow)
    (version : Key .workflowVersion) : Option (Key .workflowVersion) :=
  ((state.workflows.workflows.get? workflow).bind (·.activeVersion)).filter (· ≠ version)

theorem run_supersededBy? (hworkflows : state.workflows.Reliable) (id : Key .workflowVersion) :
    supersededBy? workflow id state =
      (.ok (superseded? state workflow.id id),
        { state with workflows := state.workflows.counted }) := by
  have hlookup := PipelineAction.onWorkflows_of_ok (hworkflows.workflow? workflow.id)
  rw [supersededBy?, run_bind_of_ok hlookup]
  rfl

/-- What an accepted publication does to a state. -/
structure Publishes (before : PipelineState σ) (workflow : Workflow) (version : WorkflowVersion)
    (rows : List TriggerRow) (after : PipelineState σ) : Prop where
  runs_eq : after.runs = before.runs
  workflows_eq : after.workflows.workflows =
    before.workflows.workflows.insert workflow.id { workflow with activeVersion := some version.id }
  versions_eq : after.workflows.versions = before.workflows.versions.insert version.id version
  rows_eq : after.index.rows =
    (before.index.rows.filter (·.workflowVersion ≠ version.id) ++ rows).filter
      fun row => superseded? before workflow.id version.id ≠ some row.workflowVersion
  workflows_reliable : after.workflows.Reliable
  index_reliable : after.index.outages.Reliable

/-- Storing a workflow and one of its versions. -/
theorem run_save {store : WorkflowStore} (h : store.Reliable)
    (hof : version.workflow = workflow.id) :
    (do WorkflowStore.saveWorkflow workflow
        WorkflowStore.saveVersion version : WorkflowAction Unit) store =
      (.ok (), { store.counted.counted with
        workflows := store.workflows.insert workflow.id workflow
        versions := store.versions.insert version.id version }) := by
  let stored : WorkflowStore :=
    { store.counted with workflows := store.workflows.insert workflow.id workflow }
  have hstored : stored.Reliable := ⟨h.current, h.outages.counted⟩
  have hcontains : stored.workflows.contains version.workflow := by
    show ((store.workflows.insert workflow.id workflow).get? version.workflow).isSome
    rw [hof, SortedMap.get?_insert_self]
    rfl
  rw [run_bind_of_ok (h.saveWorkflow workflow), hstored.saveVersion hcontains]
  rfl

/-- Deletes the rows of a superseded version, if there is one. -/
def retire (superseded : Option (Key .workflowVersion)) : PipelineAction σ Unit :=
  match superseded with
  | some previous => discard (PipelineAction.onIndex (TriggerIndex.delete previous))
  | none => pure ()

theorem run_retire (hindex : state.index.outages.Reliable)
    (superseded : Option (Key .workflowVersion)) :
    ∃ index : TriggerIndex, retire superseded state = (.ok (), { state with index }) ∧
      index.outages.Reliable ∧
      index.rows = state.index.rows.filter fun row => superseded ≠ some row.workflowVersion := by
  cases superseded with
  | none => exact ⟨state.index, rfl, hindex, by simp⟩
  | some previous =>
    obtain ⟨deleted, hdelete⟩ := TriggerIndex.run_delete hindex previous
    refine ⟨_, Success.run_discard_of_ok (PipelineAction.onIndex_of_ok hdelete), hindex, ?_⟩
    apply List.filter_congr
    intro row _
    simp [eq_comm]

theorem publish_eq : pipeline.publish workflow version = (do
    let graph ← MonadExcept.ofExcept (pipeline.checkedGraph workflow version)
    let superseded ← supersededBy? workflow version.id
    PipelineAction.onWorkflows do
      WorkflowStore.saveWorkflow { workflow with activeVersion := some version.id }
      WorkflowStore.saveVersion version
    let compile ← PipelineAction.onIndex
      (Trigger.compile pipeline.services.catalog workflow.organization version.id graph)
    retire superseded
    return { version := version.id, compile }) := by
  unfold publish
  refine bind_congr fun graph => bind_congr fun superseded => bind_congr fun _ =>
    bind_congr fun compile => ?_
  cases superseded <;> rfl

/-- An accepted publication succeeds. -/
theorem publish_of_ok {graph : Graph} {rows : List TriggerRow}
    (hworkflows : state.workflows.Reliable) (hindex : state.index.outages.Reliable)
    (hof : version.workflow = workflow.id)
    (hgraph : pipeline.checkedGraph workflow version = .ok graph)
    (hrows : Trigger.rows pipeline.services.catalog workflow.organization version.id graph =
      .ok rows) :
    ∃ outcome after, pipeline.publish workflow version state = (.ok outcome, after) ∧
      Publishes state workflow version rows after := by
  -- every step is run on the state that the one before it has left
  let active : Workflow := { workflow with activeVersion := some version.id }
  have hread : (MonadExcept.ofExcept (pipeline.checkedGraph workflow version) :
      PipelineAction σ Graph) state = (.ok graph, state) := by
    rw [hgraph]
    rfl
  let looked : PipelineState σ := { state with workflows := state.workflows.counted }
  have hlooked : looked.workflows.Reliable := hworkflows.counted
  have hsuperseded : supersededBy? workflow version.id state =
      (.ok (superseded? state workflow.id version.id), looked) :=
    run_supersededBy? hworkflows version.id
  let saved : PipelineState σ := { looked with
    workflows := { looked.workflows.counted.counted with
      workflows := looked.workflows.workflows.insert active.id active
      versions := looked.workflows.versions.insert version.id version } }
  have hof' : version.workflow = active.id := hof
  have hsaved : PipelineAction.onWorkflows (do
      WorkflowStore.saveWorkflow active
      WorkflowStore.saveVersion version) looked = (.ok (), saved) :=
    PipelineAction.onWorkflows_of_ok (run_save hlooked hof')
  obtain ⟨result, hcompile⟩ := Trigger.run_compile hindex hrows
  let compiled : PipelineState σ := { saved with
    index := { state.index.counted.counted with
      rows := state.index.rows.filter (·.workflowVersion ≠ version.id) ++ rows } }
  have hcompiled : PipelineAction.onIndex (Trigger.compile pipeline.services.catalog
      workflow.organization version.id graph) saved = (.ok result, compiled) :=
    PipelineAction.onIndex_of_ok hcompile
  have hindex' : compiled.index.outages.Reliable := hindex
  obtain ⟨index, hretired, hreliable, hkept⟩ :=
    run_retire hindex' (superseded? state workflow.id version.id)
  refine ⟨{ version := version.id, compile := result }, { compiled with index }, ?_, ?_⟩
  · rw [publish_eq, run_bind_of_ok hread, run_bind_of_ok hsuperseded, run_bind_of_ok hsaved,
      run_bind_of_ok hcompiled, run_bind_of_ok hretired]
    rfl
  · exact ⟨rfl, rfl, rfl, hkept, ⟨hworkflows.current, hworkflows.outages⟩, hreliable⟩

theorem checkedGraph_eq_ok {graph : Graph} :
    pipeline.checkedGraph workflow version = .ok graph ↔
      version.readGraph = .ok graph ∧ graph.checkStructure = .ok () ∧
        graph.checkNodes pipeline.services.catalog pipeline.services.query workflow = .ok () := by
  simp only [checkedGraph, Success.bind_eq_ok, Success.mapError_eq_ok]
  constructor
  · rintro ⟨_, hread, _, hstructure, _, hnodes, ⟨⟩⟩
    exact ⟨hread, hstructure, hnodes⟩
  · rintro ⟨hread, hstructure, hnodes⟩
    exact ⟨graph, hread, (), hstructure, (), hnodes, rfl⟩

/-- A version is accepted for a workflow, and these are its rows. -/
def Accepts (pipeline : Pipeline σ) (workflow : Workflow) (version : WorkflowVersion)
    (rows : List TriggerRow) : Prop :=
  ∃ graph, pipeline.checkedGraph workflow version = .ok graph ∧
    Trigger.rows pipeline.services.catalog workflow.organization version.id graph = .ok rows

/-- The rows are those of the workflow's organization and of the version. -/
theorem Accepts.of_mem_rows {rows : List TriggerRow} (h : pipeline.Accepts workflow version rows)
    {row : TriggerRow} (hrow : row ∈ rows) :
    row.organization = workflow.organization ∧ row.workflowVersion = version.id := by
  obtain ⟨graph, hgraph, hrows⟩ := h
  obtain ⟨-, -, hnodes⟩ := checkedGraph_eq_ok.mp hgraph
  obtain ⟨_, _, _, _, _, _, _, _, rfl⟩ := Trigger.resolves_of_mem_rows hnodes hrows hrow
  exact ⟨rfl, rfl⟩

/-! ## Consistent states -/

/-- A workflow is stored under a key with an active version. The version is stored, belongs to the
workflow and was accepted for it, and the index holds its rows. -/
structure Active (pipeline : Pipeline σ) (owner : Key .workflowVersion → Option (Key .workflow))
    (state : PipelineState σ) (key : Key .workflow) (workflow : Workflow) (version : WorkflowVersion)
    (graph : Graph) (rows : List TriggerRow) : Prop where
  active_eq : workflow.activeVersion = some version.id
  version_eq : state.workflows.versions.get? version.id = some version
  of_eq : version.workflow = key
  owner_eq : owner version.id = some key
  graph_eq : pipeline.checkedGraph workflow version = .ok graph
  compiled_eq :
    Trigger.rows pipeline.services.catalog workflow.organization version.id graph = .ok rows
  rows_eq : state.index.rows.filter (·.workflowVersion = version.id) = rows

/-- What holds after any history of publications. `owner` tells the workflow of a version. -/
structure Consistent (pipeline : Pipeline σ)
    (owner : Key .workflowVersion → Option (Key .workflow)) (state : PipelineState σ) : Prop where
  runs_eq : state.runs = .empty
  workflows_reliable : state.workflows.Reliable
  index_reliable : state.index.outages.Reliable
  id_eq : ∀ {key workflow}, state.workflows.workflows.get? key = some workflow → workflow.id = key
  active : ∀ {key workflow}, state.workflows.workflows.get? key = some workflow →
    ∃ version graph rows, Active pipeline owner state key workflow version graph rows
  listed : ∀ row ∈ state.index.rows, ∃ key workflow,
    state.workflows.workflows.get? key = some workflow ∧
      workflow.activeVersion = some row.workflowVersion

variable {owner : Key .workflowVersion → Option (Key .workflow)} {graph : Graph}
  {rows : List TriggerRow} {after : PipelineState σ}

theorem consistent_new (world : World σ) : Consistent pipeline owner (.new world) where
  runs_eq := rfl
  workflows_reliable := WorkflowStore.reliable_empty
  index_reliable := Outages.reliable_none
  id_eq := nofun
  active := nofun
  listed := nofun

namespace Publishes

theorem get?_workflows (h : Publishes state workflow version rows after) (key : Key .workflow) :
    after.workflows.workflows.get? key =
      if key = workflow.id then some { workflow with activeVersion := some version.id }
      else state.workflows.workflows.get? key := by
  rw [h.workflows_eq, SortedMap.get?_insert]
  simp only [Std.compare_eq_iff_eq]

theorem get?_versions (h : Publishes state workflow version rows after)
    (id : Key .workflowVersion) :
    after.workflows.versions.get? id =
      if id = version.id then some version else state.workflows.versions.get? id := by
  rw [h.versions_eq, SortedMap.get?_insert]
  simp only [Std.compare_eq_iff_eq]

theorem mem_rows_iff (h : Publishes state workflow version rows after) {row : TriggerRow} :
    row ∈ after.index.rows ↔
      (row ∈ state.index.rows ∧ row.workflowVersion ≠ version.id ∨ row ∈ rows) ∧
        superseded? state workflow.id version.id ≠ some row.workflowVersion := by
  rw [h.rows_eq, List.mem_filter, List.mem_append, List.mem_filter]
  simp only [decide_eq_true_eq]

end Publishes

/-- What was superseded is the active version of the stored workflow. -/
theorem superseded?_eq_some {id previous : Key .workflowVersion} {key : Key .workflow} :
    superseded? state key id = some previous ↔
      (∃ stored, state.workflows.workflows.get? key = some stored ∧
        stored.activeVersion = some previous) ∧ previous ≠ id := by
  simp only [superseded?, Option.filter_eq_some_iff, Option.bind_eq_some_iff, decide_eq_true_eq]

/-- The rows of the published version are those that were compiled. -/
theorem Publishes.rows_self (h : Publishes state workflow version rows after)
    (hversion : ∀ row ∈ rows, row.workflowVersion = version.id) :
    after.index.rows.filter (·.workflowVersion = version.id) = rows := by
  -- no version supersedes itself
  have hkept : superseded? state workflow.id version.id ≠ some version.id :=
    fun hsome => (superseded?_eq_some.mp hsome).2 rfl
  rw [h.rows_eq, List.filter_filter, List.filter_append, List.filter_eq_nil_iff.mpr,
    List.filter_eq_self.mpr, List.nil_append]
  · intro row hrow
    simp [hversion row hrow, hkept]
  · intro row hrow
    have hne := (List.mem_filter.mp hrow).2
    simp_all

/-- The rows of a version that is neither published nor superseded stay. -/
theorem Publishes.rows_other (h : Publishes state workflow version rows after)
    (hversion : ∀ row ∈ rows, row.workflowVersion = version.id) {other : Key .workflowVersion}
    (hne : other ≠ version.id) (hkept : superseded? state workflow.id version.id ≠ some other) :
    after.index.rows.filter (·.workflowVersion = other) =
      state.index.rows.filter (·.workflowVersion = other) := by
  have hnone : rows.filter (·.workflowVersion = other) = [] := by
    rw [List.filter_eq_nil_iff]
    intro row hrow
    rw [hversion row hrow, decide_eq_true_eq]
    exact hne.symm
  calc after.index.rows.filter (·.workflowVersion = other)
    _ = (state.index.rows.filter (·.workflowVersion ≠ version.id) ++ rows).filter
          (·.workflowVersion = other) := by
        rw [h.rows_eq, List.filter_filter]
        apply List.filter_congr
        intro row _
        by_cases hrow : row.workflowVersion = other <;> simp [hrow, hkept]
    _ = (state.index.rows.filter (·.workflowVersion ≠ version.id)).filter
          (·.workflowVersion = other) := by
        rw [List.filter_append, hnone, List.append_nil]
    _ = state.index.rows.filter (·.workflowVersion = other) := by
        rw [List.filter_filter]
        apply List.filter_congr
        intro row _
        by_cases hrow : row.workflowVersion = other <;> simp [hrow, hne]

/-- The index mirrors the stored workflows: the active version of each is stored and belongs to it, the rows
of the version in the index are an entry of it, and there are no other rows. What an entry is, is left open.
`owner` tells the workflow of a version. -/
structure Mirrors (owner : Key .workflowVersion → Option (Key .workflow))
    (entry : Workflow → WorkflowVersion → List TriggerRow → Prop) (tables : Tables) : Prop where
  id_eq : ∀ {key workflow}, tables.workflows.get? key = some workflow → workflow.id = key
  active : ∀ {key workflow}, tables.workflows.get? key = some workflow →
    ∃ version, workflow.activeVersion = some version.id ∧
      tables.versions.get? version.id = some version ∧ version.workflow = key ∧
      owner version.id = some key ∧
      entry workflow version (tables.rows.filter (·.workflowVersion = version.id))
  listed : ∀ row ∈ tables.rows, ∃ key workflow, tables.workflows.get? key = some workflow ∧
    workflow.activeVersion = some row.workflowVersion

theorem Mirrors.mono {entry entry' : Workflow → WorkflowVersion → List TriggerRow → Prop}
    {tables : Tables} (h : Mirrors owner entry tables)
    (himp : ∀ {workflow version rows}, entry workflow version rows → entry' workflow version rows) :
    Mirrors owner entry' tables := by
  refine ⟨h.id_eq, ?_, h.listed⟩
  intro key workflow hworkflow
  obtain ⟨version, hactive, hversion, hof, howner, hentry⟩ := h.active hworkflow
  exact ⟨version, hactive, hversion, hof, howner, himp hentry⟩

/-- An accepted publication keeps the index a mirror, if the entries of other versions stay entries and the
new rows are one. -/
theorem Mirrors.publishes {entry entry' : Workflow → WorkflowVersion → List TriggerRow → Prop}
    (hstate : Mirrors owner entry state.tables) (h : Publishes state workflow version rows after)
    (hof : version.workflow = workflow.id) (howner : owner version.id = some workflow.id)
    (hversion : ∀ row ∈ rows, row.workflowVersion = version.id)
    (hkept : ∀ {stored other rows}, other.id ≠ version.id → entry stored other rows →
      entry' stored other rows)
    (hnew : entry' { workflow with activeVersion := some version.id } version rows) :
    Mirrors owner entry' after.tables := by
  refine ⟨?_, ?_, ?_⟩
  · intro key stored (hstored : after.workflows.workflows.get? key = some stored)
    rw [h.get?_workflows] at hstored
    split at hstored
    · next hkey =>
      cases hstored
      exact hkey.symm
    · exact hstate.id_eq hstored
  · intro key stored (hstored : after.workflows.workflows.get? key = some stored)
    rw [h.get?_workflows] at hstored
    split at hstored
    · next hkey =>
      subst hkey
      cases hstored
      have hget : after.tables.versions.get? version.id = some version := by
        rw [PipelineState.tables, h.get?_versions, if_pos rfl]
      have hrows : after.tables.rows.filter (·.workflowVersion = version.id) = rows :=
        h.rows_self hversion
      refine ⟨version, rfl, hget, hof, howner, ?_⟩
      rw [hrows]
      exact hnew
    · next hkey =>
      obtain ⟨other, hactive, hget, hother, hother', hentry⟩ := hstate.active hstored
      -- a version belongs to one workflow only
      have hne : other.id ≠ version.id := by
        intro heq
        rw [← heq, hother', Option.some.injEq] at howner
        exact hkey howner
      have hkept' : superseded? state workflow.id version.id ≠ some other.id := by
        intro hsome
        obtain ⟨⟨stored', hstored', hprevious⟩, -⟩ := superseded?_eq_some.mp hsome
        obtain ⟨other', hactive', -, -, howner', -⟩ := hstate.active hstored'
        rw [hactive', Option.some.injEq] at hprevious
        rw [hprevious, hother', Option.some.injEq] at howner'
        exact hkey howner'
      have hget' : after.tables.versions.get? other.id = some other := by
        rw [PipelineState.tables, h.get?_versions, if_neg hne]
        exact hget
      have hrows : after.tables.rows.filter (·.workflowVersion = other.id) =
          state.tables.rows.filter (·.workflowVersion = other.id) :=
        h.rows_other hversion hne hkept'
      refine ⟨other, hactive, hget', hother, hother', ?_⟩
      rw [hrows]
      exact hkept hne hentry
  · intro row (hrow : row ∈ after.index.rows)
    obtain ⟨hfrom, hkept⟩ := h.mem_rows_iff.mp hrow
    rcases hfrom with ⟨hold, hne⟩ | hnew
    · obtain ⟨key, stored, hstored, hactive⟩ := hstate.listed row hold
      refine ⟨key, stored, ?_, hactive⟩
      -- a row of the workflow itself would belong to the superseded version, whose rows are gone
      have hkey : key ≠ workflow.id := by
        rintro rfl
        exact hkept (superseded?_eq_some.mpr ⟨⟨stored, hstored, hactive⟩, hne⟩)
      rw [PipelineState.tables, h.get?_workflows, if_neg hkey]
      exact hstored
    · refine ⟨workflow.id, { workflow with activeVersion := some version.id }, ?_, ?_⟩
      · rw [PipelineState.tables, h.get?_workflows, if_pos rfl]
      · rw [hversion row hnew]

/-- In a consistent state the entries are the rows of accepted versions. -/
theorem Consistent.mirrors (hstate : Consistent pipeline owner state) :
    Mirrors owner pipeline.Accepts state.tables := by
  refine ⟨hstate.id_eq, ?_, hstate.listed⟩
  intro key stored hstored
  obtain ⟨version, graph, rows, h⟩ := hstate.active hstored
  refine ⟨version, h.active_eq, h.version_eq, h.of_eq, h.owner_eq, graph, h.graph_eq, ?_⟩
  rw [h.compiled_eq]
  exact congrArg Except.ok h.rows_eq.symm

/-- An accepted publication keeps a state consistent. -/
theorem Consistent.publishes (hstate : Consistent pipeline owner state)
    (h : Publishes state workflow version rows after) (hof : version.workflow = workflow.id)
    (howner : owner version.id = some workflow.id)
    (hgraph : pipeline.checkedGraph workflow version = .ok graph)
    (hrows : Trigger.rows pipeline.services.catalog workflow.organization version.id graph =
      .ok rows) :
    Consistent pipeline owner after := by
  have haccepts : pipeline.Accepts workflow version rows := ⟨graph, hgraph, hrows⟩
  have hafter : Mirrors owner pipeline.Accepts after.tables :=
    hstate.mirrors.publishes h hof howner (fun row hrow => (haccepts.of_mem_rows hrow).2)
      (fun _ hentry => hentry) haccepts
  refine
    { runs_eq := h.runs_eq.trans hstate.runs_eq
      workflows_reliable := h.workflows_reliable
      index_reliable := h.index_reliable
      id_eq := hafter.id_eq
      active := ?_
      listed := hafter.listed }
  intro key stored hstored
  obtain ⟨other, hactive, hget, hother, hother', graph', hgraph', hrows'⟩ := hafter.active hstored
  exact ⟨other, graph', _, hactive, hget, hother, hother', hgraph', hrows', rfl⟩

/-! ## Histories -/

/-- A request to publish a version of a workflow. -/
structure Publication where
  workflow : Workflow
  version : WorkflowVersion

/-- The state after a request, whether it was accepted or not. -/
def afterPublication (pipeline : Pipeline σ) (state : PipelineState σ) (publication : Publication) :
    PipelineState σ :=
  (pipeline.publish publication.workflow publication.version state).2

/-- The state after a history of requests on empty stores. -/
def afterHistory (pipeline : Pipeline σ) (world : World σ) (history : List Publication) :
    PipelineState σ :=
  history.foldl pipeline.afterPublication (.new world)

/-- A request keeps a state consistent, whether it is accepted or not. -/
theorem Consistent.afterPublication (hstate : Consistent pipeline owner state)
    {publication : Publication} (hof : publication.version.workflow = publication.workflow.id)
    (howner : owner publication.version.id = some publication.workflow.id) :
    Consistent pipeline owner (pipeline.afterPublication state publication) := by
  unfold Pipeline.afterPublication
  cases hgraph : pipeline.checkedGraph publication.workflow publication.version with
  | error error =>
    rw [publish_of_error hgraph]
    exact hstate
  | ok graph =>
    obtain ⟨-, -, hnodes⟩ := checkedGraph_eq_ok.mp hgraph
    obtain ⟨rows, hrows⟩ := Trigger.exists_rows hnodes publication.version.id
    obtain ⟨outcome, after, hpublish, hpublishes⟩ :=
      publish_of_ok hstate.workflows_reliable hstate.index_reliable hof hgraph hrows
    rw [hpublish]
    exact hstate.publishes hpublishes hof howner hgraph hrows

/-- **Histories keep the index consistent.** After any history of requests the active versions are
stored, were accepted and have their rows in the index, and there are no other rows. -/
theorem consistent_afterHistory (world : World σ) {history : List Publication}
    (hof : ∀ p ∈ history, p.version.workflow = p.workflow.id)
    (howner : ∀ p ∈ history, owner p.version.id = some p.workflow.id) :
    Consistent pipeline owner (pipeline.afterHistory world history) := by
  unfold afterHistory
  have hstate : Consistent pipeline owner (.new world) := consistent_new world
  -- the requests may start from any consistent state
  generalize PipelineState.new world = state at hstate
  induction history generalizing state with
  | nil => exact hstate
  | cons publication rest ih =>
    obtain ⟨hof, hofRest⟩ := List.forall_mem_cons.mp hof
    obtain ⟨howner, hownerRest⟩ := List.forall_mem_cons.mp howner
    exact ih hofRest hownerRest _ (hstate.afterPublication hof howner)

end Pipeline

end TelemetryAutomation
