import TelemetryAutomation.Proofs.Pipeline.LiveVersion

/-!
# Runs that a record starts

Handling a record writes to no table of workflows or rows, and it may fail at any call. In either case every
run that is stored afterwards was there before, or a row of the index has led to it (`handle_ends`): the row
covers the record, and its version is stored and is the active one of its workflow, to which the run
belongs.
-/

namespace TelemetryAutomation

variable {σ : Type}

/-- A record leads to a version of a workflow: the catalog knows its device, a row covers it, and the version
of the row is stored and is the active one of its workflow. -/
structure LeadsTo (catalog : Catalog) (tables : Tables) (record : TelemetryRecord) (device : Device)
    (row : TriggerRow) (version : WorkflowVersion) (workflow : Workflow) : Prop where
  device_eq : catalog.device record.device = .ok (some device)
  mem_rows : row ∈ tables.rows
  covers : row.covers (Trigger.scopeOf device record)
  version_eq : tables.versions.get? row.workflowVersion = some version
  workflow_eq : tables.workflows.get? version.workflow = some workflow
  active_eq : workflow.activeVersion = some row.workflowVersion

/-- A record leads to what a run is a run of. -/
def Starts (catalog : Catalog) (tables : Tables) (record : TelemetryRecord) (run : Run) : Prop :=
  ∃ device row version workflow, LeadsTo catalog tables record device row version workflow ∧
    run.workflowVersion = row.workflowVersion ∧ run.workflow = workflow.id ∧
    run.organization = workflow.organization

/-- The tables of workflows and rows are as at the beginning, and every new run has a property. -/
structure Adds (base : PipelineState σ) (property : Run → Prop) (state : PipelineState σ) : Prop where
  holds : base.Holds base.tables state
  runs : ∀ key run, state.runs.runs.get? key = some run →
    base.runs.runs.get? key = some run ∨ property run

namespace Adds

variable {base state after : PipelineState σ} {property : Run → Prop}

theorem refl (state : PipelineState σ) : Adds state property state :=
  ⟨.refl state, fun _ _ hrun => .inl hrun⟩

/-- Every run that is new has the property. -/
theorem of_onlyRuns (h : Adds base property state) (honly : Pipeline.OnlyRuns state after)
    (hruns : ∀ key run, after.runs.runs.get? key = some run →
      state.runs.runs.get? key = some run ∨ property run) : Adds base property after := by
  refine ⟨h.holds.trans ⟨?_, ?_, ?_, ?_⟩, ?_⟩
  · rw [← h.holds.tables_eq, PipelineState.tables, PipelineState.tables, honly.workflows_eq,
      honly.index_eq]
  · rw [honly.workflows_eq]
  · rw [honly.workflows_eq]
  · rw [honly.index_eq]
  · intro key run hget
    rcases hruns key run hget with hold | hnew
    · exact h.runs key run hold
    · exact .inr hnew

theorem of_sameStores (h : Adds base property state) (hsame : Pipeline.SameStores state after) :
    Adds base property after := by
  apply h.of_onlyRuns ⟨hsame.index_eq, hsame.workflows_eq⟩
  rw [hsame.runs_eq]
  exact fun _ _ => .inl

theorem onWorkflows (h : Adds base property state) {store : WorkflowStore}
    (hstore : state.workflows.Agrees store) :
    Adds base property { state with workflows := store } := by
  have hholds := (PipelineState.Holds.refl state).onWorkflows hstore
  refine ⟨h.holds.trans ?_, h.runs⟩
  rw [← h.holds.tables_eq]
  exact hholds

theorem onIndex (h : Adds base property state) {index : TriggerIndex}
    (hindex : state.index.Agrees index) : Adds base property { state with index } := by
  have hholds := (PipelineState.Holds.refl state).onIndex hindex
  refine ⟨h.holds.trans ?_, h.runs⟩
  rw [← h.holds.tables_eq]
  exact hholds

end Adds

namespace Pipeline

variable {pipeline : Pipeline σ} {record : TelemetryRecord} {base state : PipelineState σ}

theorem liveVersion?_ends {property : Run → Prop} (id : Key .workflowVersion)
    (hstate : Adds base property state) :
    Ends (liveVersion? id) state
      (fun found after => Adds base property after ∧
        ∀ workflow version, found = some (workflow, version) →
          base.tables.versions.get? id = some version ∧
            base.tables.workflows.get? version.workflow = some workflow ∧
            workflow.activeVersion = some id)
      fun _ => Adds base property := by
  apply (liveVersion?_finds state id).mono
  · rintro found _ ⟨hfound, store, hstore, rfl⟩
    refine ⟨hstate.onWorkflows hstore, ?_⟩
    intro workflow version hlive
    obtain ⟨-, hlive⟩ := (hfound workflow version).mp hlive
    rw [← hstate.holds.versions_eq, ← hstate.holds.workflows_eq]
    exact ⟨hlive.version_eq, hlive.workflow_eq, hlive.active_eq⟩
  · rintro _ _ ⟨-, -, store, hstore, rfl⟩
    exact hstate.onWorkflows hstore

/-- A run that is started for a version of a workflow is stored, and again when it has ended. -/
theorem runVersion_ends {property : Run → Prop} {workflow : Workflow} {id : Key .workflowVersion}
    (version : WorkflowVersion) (event : CorrelationId) (hstate : Adds base property state)
    (hrun : ∀ run : Run, run.workflowVersion = id → run.workflow = workflow.id →
      run.organization = workflow.organization → property run) :
    Ends (pipeline.runVersion workflow id version record event) state
      (fun outcome after => Adds base property after ∧ property outcome.run)
      fun _ => Adds base property := by
  let known (key : Key .run) (run : Run) : Prop :=
    state.runs.runs.get? key = some run ∨ property run
  have hstored : ∀ key run, state.runs.runs.get? key = some run → known key run := fun _ _ => .inl
  have hopened {started : Run} (hstarted : property started) :
      ∀ key run, (state.runs.opened started).runs.get? key = some run → known key run :=
    fun _ _ => SortedMap.forall_get?_insert hstored (.inr hstarted)
  apply (runVersion_enters workflow id version record event state).mono
  · rintro _ after ⟨started, entry, henters, rfl⟩
    obtain ⟨answer, left, hexecutes, -⟩ := henters.tells
    obtain ⟨hversion, hworkflow, horganization⟩ := hexecutes.isRunOf
    have hstarted : property started := hrun started hversion hworkflow horganization
    obtain ⟨hversion', hworkflow', horganization'⟩ := henters.isRunOf
    have hended : property entry.run := hrun entry.run hversion' hworkflow' horganization'
    refine ⟨hstate.of_onlyRuns henters.elsewhere ?_, hended⟩
    rw [henters.runs.runs_eq]
    exact fun _ _ => SortedMap.forall_get?_insert (hopened hstarted) (.inr hended)
  · rintro _ after ⟨-, hbroken⟩
    cases hbroken with
    | unstarted elsewhere hruns _ =>
      apply hstate.of_onlyRuns elsewhere
      rw [hruns.runs_eq]
      exact hstored
    | unended started answer left hexecutes elsewhere hruns _ =>
      obtain ⟨hversion, hworkflow, horganization⟩ := hexecutes.isRunOf
      apply hstate.of_onlyRuns elsewhere
      rw [hruns.runs_eq]
      exact hopened (hrun started hversion hworkflow horganization)

/-- A version that a row has led to is run only if it is live. -/
theorem runIfLive_ends {device : Device} {row : TriggerRow} (event : CorrelationId)
    (hdevice : pipeline.services.catalog.device record.device = .ok (some device))
    (hrow : row ∈ base.tables.rows) (hcovers : row.covers (Trigger.scopeOf device record))
    (hstate : Adds base (Starts pipeline.services.catalog base.tables record) state) :
    Ends (pipeline.runIfLive record event row.workflowVersion) state
      (fun found after =>
        (∀ outcome, found = some outcome →
          Starts pipeline.services.catalog base.tables record outcome.run) ∧
        Adds base (Starts pipeline.services.catalog base.tables record) after)
      fun _ => Adds base (Starts pipeline.services.catalog base.tables record) := by
  apply (liveVersion?_ends row.workflowVersion hstate).bind
  rintro found looked ⟨hlooked, hlive⟩
  cases found with
  | none => exact .pure ⟨nofun, hlooked⟩
  | some live =>
    obtain ⟨workflow, version⟩ := live
    obtain ⟨hversion, hworkflow, hactive⟩ := hlive workflow version rfl
    have hleads : LeadsTo pipeline.services.catalog base.tables record device row version workflow :=
      ⟨hdevice, hrow, hcovers, hversion, hworkflow, hactive⟩
    have hstarts (run : Run) (hversion : run.workflowVersion = row.workflowVersion)
        (hworkflow : run.workflow = workflow.id)
        (horganization : run.organization = workflow.organization) :
        Starts pipeline.services.catalog base.tables record run :=
      ⟨device, row, version, workflow, hleads, hversion, hworkflow, horganization⟩
    apply (runVersion_ends version event hlooked hstarts).bind
    rintro outcome after ⟨hafter, houtcome⟩
    refine .pure ⟨?_, hafter⟩
    rintro _ ⟨⟩
    exact houtcome

/-- **Every run has a row behind it.** Handling a record leaves the tables of workflows and rows as they
are, even if it fails, and the record leads to what the new runs are runs of. -/
theorem handle_ends (pipeline : Pipeline σ) (record : TelemetryRecord) (state : PipelineState σ) :
    Ends (pipeline.handle record) state
      (fun outcomes after =>
        Adds state (Starts pipeline.services.catalog state.tables record) after ∧
          ∀ outcome ∈ outcomes, Starts pipeline.services.catalog state.tables record outcome.run)
      fun _ => Adds state (Starts pipeline.services.catalog state.tables record) := by
  let property := Starts pipeline.services.catalog state.tables record
  unfold handle
  by_cases henabled : pipeline.enabled
  · rw [if_pos henabled]
    apply (Ends.of_succeeds (drawCorrelation_succeeds state)).bind
    intro event drawn hdrawn
    have hrows : drawn.index.rows = state.tables.rows := by
      rw [hdrawn.index_eq]
      rfl
    have hdrawn : Adds state property drawn := (Adds.refl state).of_sameStores hdrawn
    have hmatching := Trigger.matching_ends pipeline.services.catalog pipeline.services.evaluate
      record drawn.index
    apply (PipelineAction.onIndex_ends hmatching).bind_mono
    · rintro versions _ ⟨index, ⟨hindex, -, hversions⟩, rfl⟩
      have hruns : Ends (versions.mapM (pipeline.runIfLive record event)) { drawn with index }
          (fun found after =>
            List.Forall₂ (fun _ found => ∀ outcome, found = some outcome → property outcome.run)
              versions found ∧ Adds state property after)
          fun _ => Adds state property := by
        refine .mapM ?_ (hdrawn.onIndex hindex)
        intro id hid before hbefore
        obtain ⟨device, hdevice, row, hrow, hcovers, -, rfl⟩ := (hversions id).mp hid
        rw [hrows] at hrow
        exact runIfLive_ends event hdevice hrow hcovers hbefore
      apply hruns.bind
      rintro found after ⟨hfound, hafter⟩
      refine .pure ⟨hafter, ?_⟩
      intro outcome houtcome
      obtain ⟨_, hmem, rfl⟩ := List.mem_filterMap.mp houtcome
      obtain ⟨_, -, hproperty⟩ := Success.exists_item_of_mem hfound hmem
      exact hproperty outcome rfl
    · rintro _ _ ⟨-, index, ⟨hindex, -⟩, rfl⟩
      exact hdrawn.onIndex hindex
  · rw [if_neg henabled]
    exact .pure ⟨.refl state, nofun⟩

end Pipeline

end TelemetryAutomation
