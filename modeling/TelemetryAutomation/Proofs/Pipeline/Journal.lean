import TelemetryAutomation.Proofs.Pipeline.Started
import TelemetryAutomation.Proofs.Run.Journal

/-!
# Handling records with a journal

With a journal of commands a record is handled as without it. What is added to the journal are the commands
of the runs that the record starts, and these belong to the organizations of the workflows to which the
record leads (`handle_journals`).
-/

namespace TelemetryAutomation

variable {σ α β : Type}

/-- The pipeline with services that keep a journal of commands. -/
def Pipeline.journaled (pipeline : Pipeline σ) : Pipeline (σ × List Dispatched) :=
  ⟨pipeline.enabled, pipeline.services.journaled⟩

/-- A state with a journal of commands. -/
def PipelineState.withJournal (state : PipelineState σ) (journal : List Dispatched) :
    PipelineState (σ × List Dispatched) :=
  ⟨state.index, state.workflows, state.runs, state.correlations, state.world.withJournal journal⟩

namespace PipelineAction

/-- On a state, an action does the same as another one, and it adds allowed commands to the journal. -/
def Journals (journaled : PipelineAction (σ × List Dispatched) α) (act : PipelineAction σ α)
    (allowed : Dispatched → Prop) (before : PipelineState σ) : Prop :=
  ∀ journal, ∃ sent, (∀ command ∈ sent, allowed command) ∧
    journaled (before.withJournal journal) =
      ((act before).1, (act before).2.withJournal (journal ++ sent))

namespace Journals

variable {journaled : PipelineAction (σ × List Dispatched) α} {act : PipelineAction σ α}
  {allowed : Dispatched → Prop} {before : PipelineState σ}

/-- The journal may stay as it is. -/
theorem of_eq (h : ∀ journal, journaled (before.withJournal journal) =
    ((act before).1, (act before).2.withJournal journal)) :
    Journals journaled act allowed before := by
  intro journal
  refine ⟨[], nofun, ?_⟩
  rw [List.append_nil]
  exact h journal

theorem pure (value : α) : Journals (σ := σ) (Pure.pure value) (Pure.pure value) allowed before :=
  of_eq fun _ => rfl

theorem ofExcept (result : Except PipelineError α) :
    Journals (σ := σ) (MonadExcept.ofExcept result) (MonadExcept.ofExcept result) allowed before := by
  cases result <;> exact of_eq fun _ => rfl

theorem bind {rest : α → PipelineAction (σ × List Dispatched) β} {rest' : α → PipelineAction σ β}
    (h : Journals journaled act allowed before)
    (hrest : ∀ value after, act before = (.ok value, after) →
      Journals (rest value) (rest' value) allowed after) :
    Journals (journaled >>= rest) (act >>= rest') allowed before := by
  intro journal
  obtain ⟨sent, hsent, hjournaled⟩ := h journal
  rcases hact : act before with ⟨result, after⟩
  rw [hact] at hjournaled
  cases result with
  | ok value =>
    obtain ⟨sent', hsent', hrest'⟩ := hrest value after hact (journal ++ sent)
    refine ⟨sent ++ sent', List.forall_mem_append.mpr ⟨hsent, hsent'⟩, ?_⟩
    rw [Success.run_bind_of_ok hjournaled, hrest', Success.run_bind_of_ok hact, List.append_assoc]
  | error error =>
    refine ⟨sent, hsent, ?_⟩
    rw [Success.run_bind_of_error hjournaled, Success.run_bind_of_error hact]

/-- Actions on the items of a list, with an invariant that each of them keeps if it succeeds. -/
theorem mapM {items : List α} {journaled : α → PipelineAction (σ × List Dispatched) β}
    {act : α → PipelineAction σ β} {invariant : PipelineState σ → Prop}
    (h : ∀ item ∈ items, ∀ before, invariant before →
      Journals (journaled item) (act item) allowed before ∧
        ∀ value after, act item before = (.ok value, after) → invariant after)
    (hbefore : invariant before) :
    Journals (items.mapM journaled) (items.mapM act) allowed before := by
  induction items generalizing before with
  | nil => exact .pure []
  | cons item rest ih =>
    obtain ⟨hitem, hrest⟩ := List.forall_mem_cons.mp h
    obtain ⟨hjournals, hkept⟩ := hitem before hbefore
    rw [List.mapM_cons, List.mapM_cons]
    refine hjournals.bind fun first after hfirst => ?_
    exact (ih hrest (hkept first after hfirst)).bind fun more _ _ => .pure (first :: more)

theorem onIndex (act : IndexAction α) :
    Journals (σ := σ) (PipelineAction.onIndex act) (PipelineAction.onIndex act) allowed before :=
  of_eq fun _ => rfl

theorem onWorkflows (act : WorkflowAction α) :
    Journals (σ := σ) (PipelineAction.onWorkflows act) (PipelineAction.onWorkflows act) allowed
      before :=
  of_eq fun _ => rfl

theorem onRuns (act : RunAction α) :
    Journals (σ := σ) (PipelineAction.onRuns act) (PipelineAction.onRuns act) allowed before :=
  of_eq fun _ => rfl

theorem onWorld {journaled : Action (σ × List Dispatched) α} {act : Action σ α}
    (h : journaled.Journals act allowed) :
    Journals (PipelineAction.onWorld journaled) (PipelineAction.onWorld act) allowed before := by
  intro journal
  obtain ⟨sent, hsent, hact⟩ := h before.world journal
  refine ⟨sent, hsent, ?_⟩
  have hworld : (before.withJournal journal).world = before.world.withJournal journal := rfl
  rw [PipelineAction.onWorld, hworld, hact]
  rfl

theorem drawCorrelation :
    Journals (σ := σ) PipelineAction.drawCorrelation PipelineAction.drawCorrelation allowed before :=
  of_eq fun _ => rfl

theorem now : Journals (σ := σ) PipelineAction.now PipelineAction.now allowed before :=
  of_eq fun _ => rfl

end Journals

end PipelineAction

namespace Pipeline

variable {pipeline : Pipeline σ} {record : TelemetryRecord} {base state : PipelineState σ}

theorem liveVersion?_journals (id : Key .workflowVersion) {allowed : Dispatched → Prop} :
    PipelineAction.Journals (σ := σ) (liveVersion? id) (liveVersion? id) allowed state := by
  refine .bind (.onWorkflows _) fun found looked _ => ?_
  cases found with
  | none => exact .pure none
  | some version => exact .bind (.onWorkflows _) fun stored after _ => .pure _

/-- A run is a run of the organization of its workflow, and so are its commands. -/
theorem runVersion_journals (workflow : Workflow) (id : Key .workflowVersion)
    (version : WorkflowVersion) (event : CorrelationId) :
    PipelineAction.Journals (pipeline.journaled.runVersion workflow id version record event)
      (pipeline.runVersion workflow id version record event)
      (Dispatched.IsOf workflow.organization) state := by
  refine .bind .drawCorrelation fun correlation drawn _ => ?_
  refine .bind .now fun startedAt begun _ => ?_
  refine .bind (.onRuns _) fun run created hcreate => ?_
  -- the organization of the run is that of its draft
  have hends := PipelineAction.onRuns_ends
    (RunStore.createRun_ends begun.runs (draftOf workflow id record ⟨event, correlation⟩) startedAt)
  obtain ⟨_, ⟨hrun, -⟩, -⟩ := hends.at_ok hcreate
  have horganization : run.organization = workflow.organization := by
    rw [hrun]
    rfl
  have hexecute := Execution.execute_journals pipeline.services run version record correlation
  rw [horganization] at hexecute
  refine .bind (.onWorld (.bind hexecute fun answer => ?_)) fun result executed _ => ?_
  · cases answer with
    | ok result => exact .pure result
    | error error => exact .pure _
  · refine .bind .now fun finishedAt timed _ => ?_
    refine .bind (.ofExcept _) fun ended _ _ => ?_
    exact .bind (.onRuns _) fun _ _ _ => .pure _

theorem runIfLive_journals {property : Run → Prop} {organization : Key .organization}
    {device : Device} {row : TriggerRow} (event : CorrelationId)
    (hdevice : pipeline.services.catalog.device record.device = .ok (some device))
    (hrow : row ∈ base.tables.rows) (hcovers : row.covers (Trigger.scopeOf device record))
    (hstate : Adds base property state)
    (horganization : ∀ {device row version workflow},
      LeadsTo pipeline.services.catalog base.tables record device row version workflow →
        workflow.organization = organization) :
    PipelineAction.Journals (pipeline.journaled.runIfLive record event row.workflowVersion)
      (pipeline.runIfLive record event row.workflowVersion) (Dispatched.IsOf organization) state := by
  refine .bind (liveVersion?_journals _) fun found looked hlive => ?_
  cases found with
  | none => exact .pure none
  | some live =>
    obtain ⟨workflow, version⟩ := live
    have hends := (liveVersion?_ends row.workflowVersion hstate).at_ok hlive
    obtain ⟨hversion, hworkflow, hactive⟩ := hends.2 workflow version rfl
    have hleads : LeadsTo pipeline.services.catalog base.tables record device row version workflow :=
      ⟨hdevice, hrow, hcovers, hversion, hworkflow, hactive⟩
    have hrun : PipelineAction.Journals
        (pipeline.journaled.runVersion workflow row.workflowVersion version record event)
        (pipeline.runVersion workflow row.workflowVersion version record event)
        (Dispatched.IsOf workflow.organization) looked := runVersion_journals _ _ _ _
    rw [horganization hleads] at hrun
    exact .bind hrun fun outcome _ _ => .pure _

/-- **A journal changes nothing else.** A record is handled with a journal as without it. If all workflows
to which the record leads are of one organization, all commands that are added go to its devices. -/
theorem handle_journals {organization : Key .organization}
    (horganization : ∀ {device row version workflow},
      LeadsTo pipeline.services.catalog state.tables record device row version workflow →
        workflow.organization = organization) :
    PipelineAction.Journals (pipeline.journaled.handle record) (pipeline.handle record)
      (Dispatched.IsOf organization) state := by
  let property := Starts pipeline.services.catalog state.tables record
  unfold handle
  by_cases henabled : pipeline.enabled
  · have henabled' : pipeline.journaled.enabled := henabled
    rw [if_pos henabled, if_pos henabled']
    refine .bind .drawCorrelation fun event drawn hdraw => ?_
    have hdrawn := (drawCorrelation_succeeds state).at_ok hdraw
    refine .bind (.onIndex _) fun versions matched hmatch => ?_
    have hends := PipelineAction.onIndex_ends (Trigger.matching_ends pipeline.services.catalog
      pipeline.services.evaluate record drawn.index)
    obtain ⟨index, ⟨hindex, -, hversions⟩, rfl⟩ := hends.at_ok hmatch
    have hmatched : Adds state property { drawn with index } :=
      ((Adds.refl state).of_sameStores hdrawn).onIndex hindex
    refine .bind (.mapM ?_ hmatched) fun found after _ => .pure _
    intro id hid before hbefore
    obtain ⟨device, hdevice, row, hrow, hcovers, -, rfl⟩ := (hversions id).mp hid
    rw [hdrawn.index_eq] at hrow
    refine ⟨runIfLive_journals event hdevice hrow hcovers hbefore horganization, ?_⟩
    intro outcome after hrun
    exact ((runIfLive_ends event hdevice hrow hcovers hbefore).at_ok hrun).2
  · have henabled' : ¬ pipeline.journaled.enabled := henabled
    rw [if_neg henabled, if_neg henabled']
    exact .pure []

end Pipeline

end TelemetryAutomation
