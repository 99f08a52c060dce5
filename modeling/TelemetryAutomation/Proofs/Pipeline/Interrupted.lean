import TelemetryAutomation.Proofs.Pipeline.Mirror

/-!
# Interrupted publications

A publication makes its version the active one before it touches the index. If the index fails then, the
workflow is left with an active version whose rows are missing or incomplete, and the version that was active
before is not run any more although its rows are still there (`publish_error_spec`).
-/

namespace TelemetryAutomation

open Pipeline (Publication)

variable {σ : Type}

/-- The state with stores that work. -/
def PipelineState.restored (state : PipelineState σ) : PipelineState σ where
  index := ⟨state.index.rows, .none⟩
  workflows := ⟨state.workflows.workflows, state.workflows.versions, false, .none⟩
  runs := ⟨state.runs.nextId, state.runs.runs, state.runs.steps, .none⟩
  correlations := state.correlations
  world := state.world

/-- The versions that are run for a record, unless handling it fails. -/
def Pipeline.versionsRun (pipeline : Pipeline σ) (record : TelemetryRecord) (state : PipelineState σ) :
    Option (List (Key .workflowVersion)) :=
  match (pipeline.handle record state).1 with
  | .ok outcomes => some (outcomes.map (·.run.workflowVersion))
  | .error _ => none

namespace Tables

variable {tables : Tables} {workflow : Workflow} {version : WorkflowVersion} {rows : List TriggerRow}
  {retired : Option (Key .workflowVersion)} {done : Nat}

/-- The workflow is stored by the first write and not touched any more. -/
theorem workflows_writeAll_take (hdone : 0 < done) :
    (tables.writeAll ((Pipeline.writes workflow version rows retired).take done)).workflows =
      tables.workflows.insert workflow.id { workflow with activeVersion := some version.id } := by
  obtain ⟨more, rfl⟩ := Nat.exists_eq_add_one_of_ne_zero hdone.ne'
  let stored := tables.write (.workflow { workflow with activeVersion := some version.id })
  let others : List Write := [.version version, .delete version.id, .insert rows] ++
    retired.toList.map .delete
  have hothers : ∀ write ∈ others.take more, ∀ tables : Tables,
      tables.workflows = stored.workflows → (tables.write write).workflows = stored.workflows := by
    intro write hwrite tables htables
    cases write with
    | workflow other =>
      have hmem := List.mem_of_mem_take hwrite
      simp [others] at hmem
    | version other => exact htables
    | delete other => exact htables
    | insert other => exact htables
  have hkept : (stored.writeAll (others.take more)).workflows = stored.workflows :=
    writeAll_keeps (·.workflows = stored.workflows) hothers rfl
  exact hkept

theorem get?_workflows_writeAll_take (hdone : 0 < done) :
    (tables.writeAll ((Pipeline.writes workflow version rows retired).take done)).workflows.get?
      workflow.id = some { workflow with activeVersion := some version.id } := by
  rw [workflows_writeAll_take hdone, SortedMap.get?_insert_self]

end Tables

namespace Pipeline

variable {pipeline : Pipeline σ} {workflow : Workflow} {version : WorkflowVersion}
  {start before after : PipelineState σ} {calls : List (Call σ)}

/-! ## What a failed publication leaves -/

/-- A state without writes is the same once the stores work again. -/
theorem Wrote.restored_eq (h : Wrote before [] after) : after.restored = before.restored := by
  have hrows := h.holds.rows_eq
  have hworkflows := h.holds.workflows_eq
  have hversions := h.holds.versions_eq
  have hruns := h.undisturbed.runs_eq
  have hcorrelations := h.undisturbed.correlations_eq
  have hworld := h.undisturbed.world_eq
  rw [PipelineState.restored, hrows, hworkflows, hversions, hruns, hcorrelations, hworld]
  rfl

/-- A workflow has a version as its active one, and no run of it is a run of another version. -/
structure SwitchedTo (version : Key .workflowVersion) (workflow : Key .workflow)
    (state : PipelineState σ) : Prop where
  active : ∃ stored, state.workflows.workflows.get? workflow = some stored ∧
    stored.activeVersion = some version
  runs : ∀ (pipeline : Pipeline σ) record outcomes after,
    pipeline.handle record state.restored = (.ok outcomes, after) →
      ∀ outcome ∈ outcomes, outcome.run.workflow = workflow → outcome.run.workflowVersion = version

/-- Whatever is stored as the active version of a workflow is the only one of which it has runs. -/
theorem switchedTo_of_active {publications : List Publication} {state : PipelineState σ}
    (htables : state.tables.Attributed publications) {stored : Workflow}
    {id : Key .workflowVersion} {key : Key .workflow}
    (hstored : state.workflows.workflows.get? key = some stored)
    (hactive : stored.activeVersion = some id) : SwitchedTo id key state := by
  refine ⟨⟨stored, hstored, hactive⟩, ?_⟩
  intro pipeline record outcomes after hhandle outcome houtcome hworkflow
  have hends := (pipeline.handle_ends record state.restored).at_ok hhandle
  obtain ⟨device, row, version, found, hleads, hversion, hof, -⟩ := hends.2 outcome houtcome
  -- workflows are stored under their own keys
  obtain ⟨p, -, hkey, hfound⟩ := htables.workflow _ _ hleads.workflow_eq
  have hid : found.id = version.workflow := by
    rw [hfound]
    exact hkey
  have hget : state.workflows.workflows.get? key = some found := by
    rw [← hworkflow, hof, hid]
    exact hleads.workflow_eq
  rw [hstored, Option.some.injEq] at hget
  have hactive' := hleads.active_eq
  rw [← hget, hactive, Option.some.injEq] at hactive'
  rw [hversion, hactive']

/-- **What a failed publication does to the version that was live.** If the version was refused, nothing has
changed. If the store of workflows has failed, nothing has changed for the stores once they work again, or the
workflow has been switched to the new version. If the index has failed, the workflow has been switched: no run
of it is a run of another version, and so the version that was live before is out of service. -/
theorem publish_error_spec (hstart : start.tables = .empty) {error : PipelineError}
    (h : pipeline.publish workflow version (start.afterCalls calls) = (.error error, after)) :
    match error with
    | .malformedGraph _ | .graph _ | .config _ => after = start.afterCalls calls
    | .repository _ =>
      after.restored = (start.afterCalls calls).restored ∨ SwitchedTo version.id workflow.id after
    | .index _ => SwitchedTo version.id workflow.id after
    | .run _ => False := by
  have hafter : start.afterCalls (calls ++ [.publish pipeline ⟨workflow, version⟩]) = after := by
    rw [start.afterCalls_append_singleton]
    exact Call.after_publish h
  have htables := attributed_afterCalls hstart (calls ++ [.publish pipeline ⟨workflow, version⟩])
  rw [hafter] at htables
  rcases (publish_ends (start.afterCalls calls)).at_error h with
    ⟨hrefused, rfl⟩ | ⟨rows, -, done, hlength, hstops, hwrote⟩
  · have hrefusal := isRefusal_of_checkedGraph hrefused
    cases error <;> first | rfl | contradiction
  · have hswitched (hdone : 0 < done) : SwitchedTo version.id workflow.id after := by
      have hget : after.workflows.workflows.get? workflow.id =
          some { workflow with activeVersion := some version.id } := by
        rw [hwrote.holds.workflows_eq]
        exact Tables.get?_workflows_writeAll_take hdone
      exact switchedTo_of_active htables hget rfl
    cases error with
    | malformedGraph cause => exact hstops.elim
    | graph cause => exact hstops.elim
    | config cause => exact hstops.elim
    | run cause => exact hstops.elim
    | repository cause =>
      rcases Nat.eq_zero_or_pos done with rfl | hdone
      · exact .inl hwrote.restored_eq
      · exact .inr (hswitched hdone)
    | index cause =>
      -- the workflow and the version are written before the index is called
      exact hswitched (Nat.lt_of_lt_of_le Nat.two_pos hstops)

end Pipeline

namespace Sample

/-- A version that is to supersede the first one. -/
def successor : WorkflowVersion := { versionOf nameless with id := ⟨3⟩ }

/-- The publication of the first version. -/
def first : Call Recorder := .publish pipeline ⟨workflow, versionOf nameless⟩

theorem publish_successor :
    (pipeline.publish workflow successor (unsteady.afterCalls [first])).1 =
      .error (.index (.store "unreachable")) := by
  rfl

end Sample

namespace Pipeline

theorem switchedTo_successor :
    Sample.unsteady.tables = .empty ∧ ∃ after,
      Sample.pipeline.publish Sample.workflow Sample.successor
          (Sample.unsteady.afterCalls [Sample.first]) =
        (.error (.index (.store "unreachable")), after) ∧
      SwitchedTo Sample.successor.id Sample.workflow.id after := by
  have hfailed : Sample.pipeline.publish Sample.workflow Sample.successor
      (Sample.unsteady.afterCalls [Sample.first]) =
        (.error (.index (.store "unreachable")), _) := Prod.ext Sample.publish_successor rfl
  exact ⟨rfl, _, hfailed, publish_error_spec rfl hfailed⟩

/-- A publication that the index interrupts takes the version before it out of service. -/
theorem versionsRun_successor :
    ((Sample.unsteady.afterCalls [Sample.first]).workflows.workflows.get? Sample.workflow.id).bind
          (·.activeVersion) = some (Sample.versionOf Sample.nameless).id ∧
      Sample.successor.id ≠ (Sample.versionOf Sample.nameless).id ∧
      (Sample.pipeline.publish Sample.workflow Sample.successor
          (Sample.unsteady.afterCalls [Sample.first])).1 =
        .error (.index (.store "unreachable")) ∧
      Sample.pipeline.versionsRun Sample.record
          (Sample.unsteady.afterCalls [Sample.first]).restored =
        some [(Sample.versionOf Sample.nameless).id] ∧
      Sample.pipeline.versionsRun Sample.record
          (Sample.pipeline.publish Sample.workflow Sample.successor
            (Sample.unsteady.afterCalls [Sample.first])).2.restored = some [] := by
  refine ⟨?_, ?_, Sample.publish_successor, ?_, ?_⟩ <;> decide +kernel

end Pipeline

end TelemetryAutomation
