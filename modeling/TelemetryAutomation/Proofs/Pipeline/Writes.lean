import TelemetryAutomation.Proofs.Pipeline.Publish
import TelemetryAutomation.Proofs.Store.Failing
import TelemetryAutomation.Proofs.Trigger.Compilation

/-!
# Publications as writes

A publication that is accepted writes to the tables up to five times. Each write is a call of a store and
may fail, which cuts the publication after the writes before it. So every publication, whether it succeeds
or not, does some of the first of its writes (`publish_ends`).
-/

namespace TelemetryAutomation

variable {σ : Type}

namespace PipelineState

/-- The stores of workflows and rows do not fail. -/
structure Reliable (state : PipelineState σ) : Prop where
  workflows : state.workflows.Reliable
  index : state.index.outages.Reliable

/-- A state has certain tables, and its stores of workflows and rows fail as those of another do. -/
structure Holds (base : PipelineState σ) (tables : Tables) (state : PipelineState σ) : Prop where
  tables_eq : state.tables = tables
  lags_eq : state.workflows.lags = base.workflows.lags
  workflowPlan_eq : state.workflows.outages.plan = base.workflows.outages.plan
  indexPlan_eq : state.index.outages.plan = base.index.outages.plan

namespace Holds

variable {base state : PipelineState σ} {tables : Tables}

theorem refl (state : PipelineState σ) : state.Holds state.tables state := ⟨rfl, rfl, rfl, rfl⟩

theorem workflows_eq (h : base.Holds tables state) : state.workflows.workflows = tables.workflows :=
  congrArg Tables.workflows h.tables_eq

theorem versions_eq (h : base.Holds tables state) : state.workflows.versions = tables.versions :=
  congrArg Tables.versions h.tables_eq

theorem rows_eq (h : base.Holds tables state) : state.index.rows = tables.rows :=
  congrArg Tables.rows h.tables_eq

theorem trans {next : PipelineState σ} {tables' : Tables} (h : base.Holds tables state)
    (h' : state.Holds tables' next) : base.Holds tables' next :=
  ⟨h'.tables_eq, h'.lags_eq.trans h.lags_eq, h'.workflowPlan_eq.trans h.workflowPlan_eq,
    h'.indexPlan_eq.trans h.indexPlan_eq⟩

/-- What fails does not change, so stores that do not fail never will. -/
theorem reliable (h : base.Holds tables state) (hbase : base.Reliable) : state.Reliable :=
  ⟨⟨h.lags_eq.trans hbase.workflows.current,
    hbase.workflows.outages.of_plan_eq h.workflowPlan_eq⟩, hbase.index.of_plan_eq h.indexPlan_eq⟩

/-- The store of workflows may be exchanged for one that agrees with what it is to hold. -/
theorem onWorkflows (h : base.Holds tables state)
    {workflows : SortedMap (Key .workflow) Workflow}
    {versions : SortedMap (Key .workflowVersion) WorkflowVersion} {store : WorkflowStore}
    (hstore : WorkflowStore.Agrees { state.workflows with workflows, versions } store) :
    base.Holds { tables with workflows, versions } { state with workflows := store } := by
  refine ⟨?_, hstore.lags_eq.trans h.lags_eq, hstore.plan_eq.trans h.workflowPlan_eq,
    h.indexPlan_eq⟩
  show Tables.mk store.workflows store.versions state.index.rows = _
  rw [hstore.workflows_eq, hstore.versions_eq, h.rows_eq]

/-- The index may be exchanged for one that agrees with what it is to hold. -/
theorem onIndex (h : base.Holds tables state) {rows : List TriggerRow} {index : TriggerIndex}
    (hindex : TriggerIndex.Agrees { state.index with rows } index) :
    base.Holds { tables with rows } { state with index } := by
  refine ⟨?_, h.lags_eq, h.workflowPlan_eq, hindex.plan_eq.trans h.indexPlan_eq⟩
  show Tables.mk state.workflows.workflows state.workflows.versions index.rows = _
  rw [hindex.rows_eq, h.workflows_eq, h.versions_eq]

end Holds

/-- Only the stores of workflows and rows have changed. -/
structure Undisturbed (before after : PipelineState σ) : Prop where
  runs_eq : after.runs = before.runs
  correlations_eq : after.correlations = before.correlations
  world_eq : after.world = before.world

end PipelineState

namespace PipelineAction

variable {α : Type} {state : PipelineState σ}

theorem onWorkflows_ends {act : WorkflowAction α} {succeeded : α → WorkflowStore → Prop}
    {failed : WorkflowStore → Prop} (h : Ends act state.workflows succeeded fun _ => failed) :
    Ends (onWorkflows act) state
      (fun value after => ∃ workflows, succeeded value workflows ∧ after = { state with workflows })
      fun error after => (∃ cause, error = .repository cause) ∧
        ∃ workflows, failed workflows ∧ after = { state with workflows } := by
  rcases hact : act state.workflows with ⟨result, workflows⟩
  cases result with
  | ok value => exact .of_ok (onWorkflows_of_ok hact) ⟨workflows, h.at_ok hact, rfl⟩
  | error cause =>
    have hrun : onWorkflows act state = (.error (.repository cause), { state with workflows }) := by
      rw [onWorkflows, hact]
      rfl
    exact .of_error hrun ⟨⟨cause, rfl⟩, workflows, h.at_error hact, rfl⟩

theorem onIndex_ends {act : IndexAction α} {succeeded : α → TriggerIndex → Prop}
    {failed : TriggerIndex → Prop} (h : Ends act state.index succeeded fun _ => failed) :
    Ends (onIndex act) state
      (fun value after => ∃ index, succeeded value index ∧ after = { state with index })
      fun error after => (∃ cause, error = .index cause) ∧
        ∃ index, failed index ∧ after = { state with index } := by
  rcases hact : act state.index with ⟨result, index⟩
  cases result with
  | ok value => exact .of_ok (onIndex_of_ok hact) ⟨index, h.at_ok hact, rfl⟩
  | error cause =>
    have hrun : onIndex act state = (.error (.index cause), { state with index }) := by
      rw [onIndex, hact]
      rfl
    exact .of_error hrun ⟨⟨cause, rfl⟩, index, h.at_error hact, rfl⟩

theorem onRuns_ends {act : RunAction α} {succeeded : α → RunStore → Prop} {failed : RunStore → Prop}
    (h : Ends act state.runs succeeded fun _ => failed) :
    Ends (onRuns act) state
      (fun value after => ∃ runs, succeeded value runs ∧ after = { state with runs })
      fun error after => (∃ cause, error = .repository cause) ∧
        ∃ runs, failed runs ∧ after = { state with runs } := by
  rcases hact : act state.runs with ⟨result, runs⟩
  cases result with
  | ok value => exact .of_ok (onRuns_of_ok hact) ⟨runs, h.at_ok hact, rfl⟩
  | error cause =>
    have hrun : onRuns act state = (.error (.repository cause), { state with runs }) := by
      rw [onRuns, hact]
      rfl
    exact .of_error hrun ⟨⟨cause, rfl⟩, runs, h.at_error hact, rfl⟩

end PipelineAction

/-- The version was refused, as opposed to a store that has failed. -/
def PipelineError.IsRefusal : PipelineError → Prop
  | .malformedGraph _ | .graph _ | .config _ => True
  | _ => False

namespace Pipeline

variable {pipeline : Pipeline σ} {workflow : Workflow} {version : WorkflowVersion}
  {rows : List TriggerRow}

theorem isRefusal_of_checkedGraph {error : PipelineError}
    (h : pipeline.checkedGraph workflow version = .error error) : error.IsRefusal := by
  simp only [checkedGraph, Success.bind_eq_error, Success.mapError_eq_error] at h
  rcases h with ⟨_, -, rfl⟩ | ⟨_, -, ⟨_, -, rfl⟩ | ⟨_, -, ⟨_, -, rfl⟩ | ⟨_, -, ⟨⟩⟩⟩⟩
  all_goals trivial

/-! ## The writes of a publication -/

/-- The writes of an accepted publication. The last one is there if another version is retired. -/
def writes (workflow : Workflow) (version : WorkflowVersion) (rows : List TriggerRow)
    (retired : Option (Key .workflowVersion)) : List Write :=
  [.workflow { workflow with activeVersion := some version.id }, .version version,
    .delete version.id, .insert rows] ++ retired.toList.map .delete

/-- The version that a publication retires: the one that it supersedes, unless the store lags. -/
def retired? (state : PipelineState σ) (workflow : Key .workflow) (version : Key .workflowVersion) :
    Option (Key .workflowVersion) :=
  if state.workflows.lags then none else superseded? state workflow version

/-- Some writes were done to a state, and nothing else. -/
structure Wrote (before : PipelineState σ) (writes : List Write) (after : PipelineState σ) : Prop where
  holds : before.Holds (before.tables.writeAll writes) after
  undisturbed : before.Undisturbed after

/-- An error of a store tells how many writes a publication may have done: those of workflows and versions
come before those of rows. -/
def StopsAfter (error : PipelineError) (done : Nat) : Prop :=
  match error with
  | .repository _ => done ≤ 1
  | .index _ => 2 ≤ done
  | _ => False

/-- A publication was cut by an error of a store: it has not done all of its writes. -/
def Cut (before : PipelineState σ) (writes : List Write) (error : PipelineError)
    (after : PipelineState σ) : Prop :=
  ∃ done < writes.length, StopsAfter error done ∧ Wrote before (writes.take done) after

theorem Wrote.refl (state : PipelineState σ) : Wrote state [] state :=
  ⟨.refl state, rfl, rfl, rfl⟩

theorem Wrote.trans {before middle after : PipelineState σ} {writes writes' : List Write}
    (h : Wrote before writes middle) (h' : Wrote middle writes' after) :
    Wrote before (writes ++ writes') after := by
  refine ⟨?_, h'.undisturbed.runs_eq.trans h.undisturbed.runs_eq,
    h'.undisturbed.correlations_eq.trans h.undisturbed.correlations_eq,
    h'.undisturbed.world_eq.trans h.undisturbed.world_eq⟩
  have htables : before.tables.writeAll (writes ++ writes') = middle.tables.writeAll writes' := by
    rw [h.holds.tables_eq, Tables.writeAll, List.foldl_append]
    rfl
  rw [htables]
  exact h.holds.trans h'.holds

section

variable {state : PipelineState σ} {done : List Write}

/-- A store that agrees with one that has some writes has them. -/
theorem Wrote.onWorkflows {workflows : SortedMap (Key .workflow) Workflow}
    {versions : SortedMap (Key .workflowVersion) WorkflowVersion} {store : WorkflowStore}
    (hdone : state.tables.writeAll done = { state.tables with workflows, versions })
    (hstore : WorkflowStore.Agrees { state.workflows with workflows, versions } store) :
    Wrote state done { state with workflows := store } := by
  refine ⟨?_, rfl, rfl, rfl⟩
  rw [hdone]
  exact (PipelineState.Holds.refl state).onWorkflows hstore

theorem Wrote.onIndex {rows : List TriggerRow} {index : TriggerIndex}
    (hdone : state.tables.writeAll done = { state.tables with rows })
    (hindex : TriggerIndex.Agrees { state.index with rows } index) :
    Wrote state done { state with index } := by
  refine ⟨?_, rfl, rfl, rfl⟩
  rw [hdone]
  exact (PipelineState.Holds.refl state).onIndex hindex

end

/-! ## Step by step -/

theorem supersededBy?_ends (state : PipelineState σ) :
    Ends (supersededBy? workflow version.id) state
      (fun retired after => retired = retired? state workflow.id version.id ∧ Wrote state [] after)
      fun error after => (∃ cause, error = .repository cause) ∧ Wrote state [] after := by
  have hlookup := WorkflowStore.workflow?_ends state.workflows workflow.id
  apply (PipelineAction.onWorkflows_ends hlookup).bind_mono
  · rintro found _ ⟨store, ⟨hstore, rfl⟩, rfl⟩
    refine .pure ⟨?_, .onWorkflows rfl hstore⟩
    rw [retired?]
    split <;> rfl
  · rintro _ _ ⟨hcause, store, ⟨hstore, -⟩, rfl⟩
    exact ⟨hcause, .onWorkflows rfl hstore⟩

/-- Storing a workflow and a version may fail in between. -/
theorem save_ends (store : WorkflowStore) :
    Ends (do WorkflowStore.saveWorkflow workflow
             WorkflowStore.saveVersion version : WorkflowAction Unit) store
      (fun _ => WorkflowStore.Agrees { store with
        workflows := store.workflows.insert workflow.id workflow
        versions := store.versions.insert version.id version })
      fun _ after => store.Agrees after ∨ WorkflowStore.Agrees { store with
        workflows := store.workflows.insert workflow.id workflow } after := by
  refine (WorkflowStore.saveWorkflow_ends store workflow).bind_mono ?_ fun _ _ => .inl
  intro _ saved hsaved
  apply (WorkflowStore.saveVersion_ends saved version).mono
  · intro _ after hafter
    refine ⟨hafter.workflows_eq.trans hsaved.workflows_eq, hafter.versions_eq.trans ?_,
      hafter.lags_eq.trans hsaved.lags_eq, hafter.plan_eq.trans hsaved.plan_eq⟩
    show saved.versions.insert version.id version = _
    rw [hsaved.versions_eq]
  · intro _ after hafter
    exact .inr (hsaved.trans hafter)

theorem onWorkflows_save_ends (state : PipelineState σ) :
    Ends (PipelineAction.onWorkflows do
        WorkflowStore.saveWorkflow workflow
        WorkflowStore.saveVersion version) state
      (fun _ => Wrote state [.workflow workflow, .version version])
      fun error after => (∃ cause, error = .repository cause) ∧
        (Wrote state [] after ∨ Wrote state [.workflow workflow] after) := by
  apply (PipelineAction.onWorkflows_ends (save_ends state.workflows)).mono
  · rintro _ _ ⟨store, hstore, rfl⟩
    exact .onWorkflows rfl hstore
  · rintro _ _ ⟨hcause, store, hstore | hstore, rfl⟩
    · exact ⟨hcause, .inl (.onWorkflows rfl hstore)⟩
    · exact ⟨hcause, .inr (.onWorkflows rfl hstore)⟩

theorem onIndex_compile_ends {organization : Key .organization} {id : Key .workflowVersion}
    {graph : Graph} (hrows : Trigger.rows pipeline.services.catalog organization id graph = .ok rows)
    (state : PipelineState σ) :
    Ends (PipelineAction.onIndex (Trigger.compile pipeline.services.catalog organization id graph))
      state (fun _ => Wrote state [.delete id, .insert rows])
      fun error after => (∃ cause, error = .index cause) ∧
        (Wrote state [] after ∨ Wrote state [.delete id] after) := by
  have hcompile := (Trigger.compile_ends hrows state.index).mono (fun _ _ hdone => hdone.2)
    fun _ _ hfailed => hfailed.2.2
  apply (PipelineAction.onIndex_ends hcompile).mono
  · rintro _ _ ⟨index, hindex, rfl⟩
    exact .onIndex rfl hindex
  · rintro _ _ ⟨hcause, index, hindex | hindex, rfl⟩
    · exact ⟨hcause, .inl (.onIndex rfl hindex)⟩
    · exact ⟨hcause, .inr (.onIndex rfl hindex)⟩

theorem retire_ends (state : PipelineState σ) (retired : Option (Key .workflowVersion)) :
    Ends (retire retired) state (fun _ => Wrote state (retired.toList.map .delete))
      fun error after => (∃ cause, error = .index cause) ∧ 0 < retired.toList.length ∧
        Wrote state [] after := by
  cases retired with
  | none => exact .pure (.refl state)
  | some previous =>
    have hdelete := (TriggerIndex.delete_ends state.index previous).mono (fun _ _ hdone => hdone.2)
      fun _ _ hrefuses => hrefuses.agrees
    apply Ends.discard
    apply (PipelineAction.onIndex_ends hdelete).mono
    · rintro deleted _ ⟨index, hindex, rfl⟩
      exact .onIndex rfl hindex
    · rintro _ _ ⟨hcause, index, hindex, rfl⟩
      exact ⟨hcause, Nat.one_pos, .onIndex rfl hindex⟩

/-! ## The whole publication -/

variable (state : PipelineState σ)

/-- A publication that is accepted is cut at a write, or it does all of them. -/
theorem publish_ends_of_ok {graph : Graph}
    (hgraph : pipeline.checkedGraph workflow version = .ok graph)
    (hrows : Trigger.rows pipeline.services.catalog workflow.organization version.id graph =
      .ok rows) :
    Ends (pipeline.publish workflow version) state
      (fun outcome after => outcome.version = version.id ∧
        Wrote state (writes workflow version rows (retired? state workflow.id version.id)) after)
      (Cut state (writes workflow version rows (retired? state workflow.id version.id))) := by
  have hlength (retired : Option (Key .workflowVersion)) :
      (writes workflow version rows retired).length = 4 + retired.toList.length := by
    simp only [writes, List.length_append, List.length_map, List.length_cons, List.length_nil]
  have hread : (MonadExcept.ofExcept (pipeline.checkedGraph workflow version) :
      PipelineAction σ Graph) state = (.ok graph, state) := by
    rw [hgraph]
    rfl
  rw [publish_eq]
  apply Ends.bind_of_ok hread
  -- in each step a failure leaves what was written before the step and in it
  apply (supersededBy?_ends state).bind_mono
  · rintro _ looked ⟨rfl, hlooked⟩
    apply (onWorkflows_save_ends looked).bind_mono
    · intro _ saved hsaved
      have hsaved := hlooked.trans hsaved
      apply (onIndex_compile_ends hrows saved).bind_mono
      · intro result replaced hreplaced
        have hreplaced := hsaved.trans hreplaced
        apply (retire_ends replaced _).bind_mono
        · intro _ after hafter
          exact .pure ⟨rfl, hreplaced.trans hafter⟩
        · rintro _ after ⟨⟨cause, rfl⟩, hretired, hafter⟩
          exact ⟨4, by rw [hlength]; omega, Nat.le_add_left 2 2, hreplaced.trans hafter⟩
      · rintro _ after ⟨⟨cause, rfl⟩, hafter | hafter⟩
        · exact ⟨2, by rw [hlength]; omega, Nat.le_refl 2, hsaved.trans hafter⟩
        · exact ⟨3, by rw [hlength]; omega, Nat.le_succ 2, hsaved.trans hafter⟩
    · rintro _ after ⟨⟨cause, rfl⟩, hafter | hafter⟩
      · exact ⟨0, by rw [hlength]; omega, Nat.zero_le 1, hlooked.trans hafter⟩
      · exact ⟨1, by rw [hlength]; omega, Nat.le_refl 1, hlooked.trans hafter⟩
  · rintro _ after ⟨⟨cause, rfl⟩, hafter⟩
    exact ⟨0, by rw [hlength]; omega, Nat.zero_le 1, hafter⟩

/-- **A publication does the first of its writes.** It does all of them if it succeeds. If it fails, either
the version was refused and the state is as it was, or a store has failed, and the writes before are
done. -/
theorem publish_ends :
    Ends (pipeline.publish workflow version) state
      (fun outcome after => outcome.version = version.id ∧
        ∃ rows, pipeline.Accepts workflow version rows ∧
          Wrote state (writes workflow version rows (retired? state workflow.id version.id)) after)
      fun error after =>
        pipeline.checkedGraph workflow version = .error error ∧ after = state ∨
          ∃ rows, pipeline.Accepts workflow version rows ∧
            Cut state (writes workflow version rows (retired? state workflow.id version.id)) error
              after := by
  cases hgraph : pipeline.checkedGraph workflow version with
  | error error => exact .of_error (publish_of_error hgraph) (.inl ⟨rfl, rfl⟩)
  | ok graph =>
    obtain ⟨-, -, hnodes⟩ := checkedGraph_eq_ok.mp hgraph
    obtain ⟨rows, hrows⟩ := Trigger.exists_rows hnodes version.id
    have haccepts : pipeline.Accepts workflow version rows := ⟨graph, hgraph, hrows⟩
    apply (publish_ends_of_ok state hgraph hrows).mono
    · rintro _ after ⟨hversion, hafter⟩
      exact ⟨hversion, rows, haccepts, hafter⟩
    · intro _ after hcut
      exact .inr ⟨rows, haccepts, hcut⟩

end Pipeline

end TelemetryAutomation
