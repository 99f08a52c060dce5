import TelemetryAutomation.Pipeline.Telemetry
import TelemetryAutomation.Proofs.Pipeline.Writes
import TelemetryAutomation.Proofs.Run.Visits

/-!
# Entries of runs

What is kept of a run that has ended is an entry: the run and its steps. Running a version does one thing to
the stores: it puts a run under the next key and, when it has ended, its entry in the run's stead
(`runVersion_enters`). The entry tells what came of the execution (`RunEntry.Tells`), and an execution that
could not even begin leaves an entry as well.
-/

namespace TelemetryAutomation

variable {σ : Type}

/-! ## What executions come to -/

namespace Execution

/-- A result tells of an execution of its run: it fails if one of its steps failed, and all steps are steps
of the run. -/
structure Settles (run : Run) (result : ExecutionResult) : Prop where
  terminal : result.status.isTerminal
  failed_iff : result.status = .failed ↔ ∃ step ∈ result.steps, step.status = .failed
  ofRun : ∀ step ∈ result.steps, step.run = run.id

theorem settles_noMatchingTriggers (run : Run) : Settles run .noMatchingTriggers :=
  ⟨rfl, ⟨nofun, nofun⟩, nofun⟩

theorem settles_ofSteps {run : Run} {steps : List RunStep} (h : ∀ step ∈ steps, step.run = run.id) :
    Settles run (.ofSteps steps) := by
  refine ⟨ExecutionResult.isTerminal_status_ofSteps steps, ?_, ?_⟩
  · rw [ExecutionResult.status_ofSteps, ExecutionResult.steps_ofSteps]
    by_cases hfailed : ∃ step ∈ steps, step.status = .failed
    · simp [hfailed]
    · simp [hfailed]
  · rw [ExecutionResult.steps_ofSteps]
    exact h

/-- Whatever the services do, a result settles its run. -/
theorem execute_settles (services : Services σ) (run : Run) (version : WorkflowVersion)
    (record : TelemetryRecord) (correlation : CorrelationId) :
    (execute services run version record correlation).Yields fun answer =>
      ∀ result, answer = .ok result → Settles run result := by
  unfold execute
  cases version.readGraph with
  | error error => exact .pure nofun
  | ok graph =>
    simp only
    cases matchTriggers services.catalog graph record with
    | error error => exact .pure nofun
    | ok triggers =>
      cases triggers with
      | nil =>
        refine .pure ?_
        rintro _ ⟨⟩
        exact settles_noMatchingTriggers run
      | cons first rest =>
        refine .map (.bind (.any _) fun branches _ => .pure ?_)
        rintro _ ⟨⟩
        apply settles_ofSteps
        intro step hstep
        obtain ⟨position, hposition, rfl⟩ := List.mem_mapIdx.mp hstep
        rfl

end Execution

/-! ## Entries -/

/-- A run that has ended, with its steps. -/
structure RunEntry where
  run : Run
  steps : List RunStep

namespace RunEntry

/-- What is told of an entry to whoever sent the record. -/
def outcome (entry : RunEntry) : RunOutcome := ⟨entry.run, entry.steps.map RunStep.summary⟩

/-- The reason of a run that could not be executed. -/
def raisedReason : String := "workflow_execution_exception"

/-- An entry tells what came of a run that had been started, given the answer of its execution. -/
structure Tells (entry : RunEntry) (started : Run) (answer : Except ExecutionError ExecutionResult) :
    Prop where
  /-- Ending a run changes nothing but how it ended. -/
  run_eq : entry.run = { started with
    status := entry.run.status
    errorSummary := entry.run.errorSummary
    finishedAt := entry.run.finishedAt }
  terminal : entry.run.status.isTerminal
  finished : entry.run.finishedAt.isSome
  failed_iff : entry.run.status = .failed ↔
    (∃ step ∈ entry.steps, step.status = .failed) ∨ ∃ error, answer = .error error
  ofRun : ∀ step ∈ entry.steps, step.run = entry.run.id
  executed : ∀ result, answer = .ok result →
    entry.run.status = result.status ∧ entry.run.errorSummary = result.error ∧
      entry.steps = result.steps
  raised : ∀ error, answer = .error error →
    reasonOf? entry.run.errorSummary = some raisedReason ∧ entry.steps = []

theorem Tells.id_eq {entry : RunEntry} {started : Run}
    {answer : Except ExecutionError ExecutionResult} (h : entry.Tells started answer) :
    entry.run.id = started.id := by
  rw [h.run_eq]

end RunEntry

namespace Pipeline

variable {pipeline : Pipeline σ}

/-- What comes of a run with an answer. -/
def resultOf (ids : Correlations) : Except ExecutionError ExecutionResult → ExecutionResult
  | .ok result => result
  | .error error => raised error ids

/-- Executing a run changes the world only, and its result is what comes of the answer. -/
theorem onWorld_executeRun {run : Run} {version : WorkflowVersion} {record : TelemetryRecord}
    {ids : Correlations} {answer : Except ExecutionError ExecutionResult} {left : World σ}
    (state : PipelineState σ)
    (h : Execution.execute pipeline.services run version record ids.run state.world = (answer, left)) :
    PipelineAction.onWorld (pipeline.executeRun run version record ids) state =
      (.ok (resultOf ids answer), { state with world := left }) := by
  have hrun : pipeline.executeRun run version record ids state.world = (resultOf ids answer, left) := by
    rw [executeRun, Action.bind_apply, h]
    cases answer <;> rfl
  rw [PipelineAction.onWorld, hrun]

theorem reasonOf?_raised (error : ExecutionError) (ids : Correlations) :
    reasonOf? (raised error ids).error = some RunEntry.raisedReason := by
  have hmessage : compare "reason" "message" ≠ .eq := by decide
  have hevent : compare "reason" "event_correlation_id" ≠ .eq := by decide
  have hrun : compare "reason" "run_correlation_id" ≠ .eq := by decide
  simp [raised, reasonOf?, Correlations.fields, Json.object, Json.field?, Json.obj?, SortedMap.ofList,
    hmessage, hevent, hrun, Json.str?, RunEntry.raisedReason]

theorem isTerminal_resultOf {started : Run} {ids : Correlations}
    {answer : Except ExecutionError ExecutionResult}
    (hsettles : ∀ result, answer = .ok result → Execution.Settles started result) :
    (resultOf ids answer).status.isTerminal := by
  cases answer with
  | ok result => exact (hsettles result rfl).terminal
  | error error => rfl

/-- Whatever answer there is, the entry of the run that has ended tells of it. -/
theorem tells_resultOf {started ended : Run} {ids : Correlations} {finishedAt : Timestamp}
    {answer : Except ExecutionError ExecutionResult}
    (hsettles : ∀ result, answer = .ok result → Execution.Settles started result)
    (hended : started.finish (resultOf ids answer).status (resultOf ids answer).error finishedAt =
      .ok ended) :
    RunEntry.Tells ⟨ended, (resultOf ids answer).steps⟩ started answer := by
  rw [Run.finish] at hended
  split at hended
  · next hallowed =>
    cases hended
    cases answer with
    | error error =>
      refine ⟨rfl, rfl, rfl, ?_, nofun, nofun, ?_⟩
      · exact ⟨fun _ => .inr ⟨error, rfl⟩, fun _ => rfl⟩
      · intro _ _
        exact ⟨reasonOf?_raised error ids, rfl⟩
    | ok result =>
      have h := hsettles result rfl
      refine ⟨rfl, h.terminal, rfl, ?_, h.ofRun, ?_, nofun⟩
      · simpa [resultOf] using h.failed_iff
      · rintro _ ⟨⟩
        exact ⟨rfl, rfl, rfl⟩
  · cases hended

end Pipeline

/-! ## Looking a version up -/

/-- A version is live if it is stored and is the active version of its workflow. -/
structure WorkflowStore.Live (store : WorkflowStore) (id : Key .workflowVersion) (workflow : Workflow)
    (version : WorkflowVersion) : Prop where
  version_eq : store.versions.get? id = some version
  workflow_eq : store.workflows.get? version.workflow = some workflow
  active_eq : workflow.activeVersion = some id

theorem WorkflowStore.Agrees.live_iff {store after : WorkflowStore} {id : Key .workflowVersion}
    {workflow : Workflow} {version : WorkflowVersion} (h : store.Agrees after) :
    after.Live id workflow version ↔ store.Live id workflow version := by
  have hversions := h.versions_eq
  have hworkflows := h.workflows_eq
  constructor
  · intro hlive
    exact ⟨hversions ▸ hlive.version_eq, hworkflows ▸ hlive.workflow_eq, hlive.active_eq⟩
  · intro hlive
    exact ⟨hversions ▸ hlive.version_eq, hworkflows ▸ hlive.workflow_eq, hlive.active_eq⟩

namespace Pipeline

variable {pipeline : Pipeline σ}

/-- Exactly the live versions are found, unless the store lags. -/
theorem liveVersion?_finds (state : PipelineState σ) (id : Key .workflowVersion) :
    Ends (liveVersion? id) state
      (fun found after =>
        (∀ workflow version, found = some (workflow, version) ↔
          state.workflows.lags = false ∧ state.workflows.Live id workflow version) ∧
        ∃ workflows, state.workflows.Agrees workflows ∧ after = { state with workflows })
      fun error after => (∃ cause, error = .repository cause) ∧
        ¬ state.workflows.outages.Reliable ∧
          ∃ workflows, state.workflows.Agrees workflows ∧ after = { state with workflows } := by
  unfold liveVersion?
  have hversion := WorkflowStore.version?_ends state.workflows id
  apply (PipelineAction.onWorkflows_ends hversion).bind_mono
  · rintro found _ ⟨store, ⟨hstore, rfl⟩, rfl⟩
    cases hfound : state.workflows.versions.get? id with
    | none =>
      refine .pure ⟨?_, store, hstore, rfl⟩
      intro workflow version
      refine ⟨nofun, ?_⟩
      rintro ⟨-, hlive⟩
      rw [hlive.version_eq] at hfound
      cases hfound
    | some version =>
      have hworkflow := WorkflowStore.workflow?_ends store version.workflow
      apply (PipelineAction.onWorkflows_ends hworkflow).bind_mono
      · rintro _ _ ⟨store', ⟨hstore', rfl⟩, rfl⟩
        refine .pure ⟨?_, store', hstore.trans hstore', rfl⟩
        intro workflow version'
        rw [hstore.lags_eq, hstore.workflows_eq, Option.map_eq_some_iff]
        simp only [Prod.mk.injEq, Option.filter_eq_some_iff, decide_eq_true_eq]
        constructor
        · rintro ⟨_, ⟨hstored, hactive⟩, rfl, rfl⟩
          split at hstored
          · cases hstored
          · next hcurrent =>
            exact ⟨Bool.not_eq_true _ ▸ hcurrent, hfound, hstored, hactive⟩
        · rintro ⟨hcurrent, hlive⟩
          have heq := hlive.version_eq
          rw [hfound, Option.some.injEq] at heq
          subst heq
          refine ⟨workflow, ⟨?_, hlive.active_eq⟩, rfl, rfl⟩
          rw [hcurrent]
          exact hlive.workflow_eq
      · rintro _ _ ⟨hcause, store', ⟨hstore', hunreliable⟩, rfl⟩
        refine ⟨hcause, ?_, store', hstore.trans hstore', rfl⟩
        exact fun hreliable => hunreliable (hreliable.of_plan_eq hstore.plan_eq)
  · rintro _ _ ⟨hcause, store, ⟨hstore, hunreliable⟩, rfl⟩
    exact ⟨hcause, hunreliable, store, hstore, rfl⟩

/-! ## Running a version -/

/-- Nothing but the runs, the correlations and the world has changed. -/
structure OnlyRuns (before after : PipelineState σ) : Prop where
  index_eq : after.index = before.index
  workflows_eq : after.workflows = before.workflows

/-- A run of a version was started under the next key with the correlation that is drawn next, and it was
executed, which gave an answer and left a world. -/
def Executes (pipeline : Pipeline σ) (workflow : Workflow) (id : Key .workflowVersion)
    (version : WorkflowVersion) (record : TelemetryRecord) (before : PipelineState σ) (started : Run)
    (answer : Except ExecutionError ExecutionResult) (left : World σ) : Prop :=
  let correlation := before.correlations.draw.1
  let (startedAt, world) := Action.now before.world
  (∃ event, started = Run.start ⟨before.runs.nextId⟩ (draftOf workflow id record ⟨event, correlation⟩)
    (.ofNanos startedAt)) ∧
    Execution.execute pipeline.services started version record correlation world = (answer, left)

/-- What is started is a run of the version and of its workflow. -/
theorem Executes.isRunOf {workflow : Workflow} {id : Key .workflowVersion} {version : WorkflowVersion}
    {record : TelemetryRecord} {before : PipelineState σ} {started : Run}
    {answer : Except ExecutionError ExecutionResult} {left : World σ}
    (h : pipeline.Executes workflow id version record before started answer left) :
    started.workflowVersion = id ∧ started.workflow = workflow.id ∧
      started.organization = workflow.organization := by
  obtain ⟨⟨event, hstarted⟩, -⟩ := h
  rw [hstarted]
  exact ⟨rfl, rfl, rfl⟩

theorem Executes.id_eq {workflow : Workflow} {id : Key .workflowVersion} {version : WorkflowVersion}
    {record : TelemetryRecord} {before : PipelineState σ} {started : Run}
    {answer : Except ExecutionError ExecutionResult} {left : World σ}
    (h : pipeline.Executes workflow id version record before started answer left) :
    started.id = ⟨before.runs.nextId⟩ := by
  obtain ⟨⟨event, hstarted⟩, -⟩ := h
  rw [hstarted]
  rfl

/-- A run of a version was started, executed and ended, after which the clock was read once more. -/
structure Enters (pipeline : Pipeline σ) (workflow : Workflow) (id : Key .workflowVersion)
    (version : WorkflowVersion) (record : TelemetryRecord) (before : PipelineState σ) (started : Run)
    (entry : RunEntry) (after : PipelineState σ) : Prop where
  key_pos : 0 < before.runs.nextId
  tells : ∃ answer left, pipeline.Executes workflow id version record before started answer left ∧
    entry.Tells started answer ∧ after.world = (Action.now left).2
  elsewhere : OnlyRuns before after
  runs : ((before.runs.opened started).closed entry.run entry.steps).Agrees after.runs

/-- So is what is entered. -/
theorem Enters.isRunOf {workflow : Workflow} {id : Key .workflowVersion} {version : WorkflowVersion}
    {record : TelemetryRecord} {before after : PipelineState σ} {started : Run} {entry : RunEntry}
    (h : pipeline.Enters workflow id version record before started entry after) :
    entry.run.workflowVersion = id ∧ entry.run.workflow = workflow.id ∧
      entry.run.organization = workflow.organization := by
  obtain ⟨answer, left, hexecutes, htells, -⟩ := h.tells
  rw [htells.run_eq]
  exact hexecutes.isRunOf

/-- A run of a version could not be started, or it could not be ended. Neither happens to a store that does not
fail as long as there are keys. -/
inductive BreaksOff (pipeline : Pipeline σ) (workflow : Workflow) (id : Key .workflowVersion)
    (version : WorkflowVersion) (record : TelemetryRecord) (before after : PipelineState σ) : Prop
  | unstarted (elsewhere : OnlyRuns before after) (runs : before.runs.Agrees after.runs)
      (cause : before.runs.outages.Reliable → ¬ 0 < before.runs.nextId)
  | unended (started : Run) (answer : Except ExecutionError ExecutionResult) (left : World σ)
      (executes : pipeline.Executes workflow id version record before started answer left)
      (elsewhere : OnlyRuns before after) (runs : (before.runs.opened started).Agrees after.runs)
      (cause : ¬ before.runs.outages.Reliable)

/-- **A version is run once and leaves an entry**, unless a store fails or the keys have run out. -/
theorem runVersion_enters (workflow : Workflow) (id : Key .workflowVersion) (version : WorkflowVersion)
    (record : TelemetryRecord) (event : CorrelationId) (state : PipelineState σ) :
    Ends (pipeline.runVersion workflow id version record event) state
      (fun outcome after => ∃ started entry,
        pipeline.Enters workflow id version record state started entry after ∧
          outcome = entry.outcome)
      fun error after => (∃ cause, error = .repository cause) ∧
        pipeline.BreaksOff workflow id version record state after := by
  let ids : Correlations := ⟨event, state.correlations.draw.1⟩
  let draft := draftOf workflow id record ids
  let startedAt := Timestamp.ofNanos (Action.now state.world).1
  -- a correlation has been drawn and the clock has been read
  let begun : PipelineState σ :=
    { state with correlations := state.correlations.draw.2, world := (Action.now state.world).2 }
  unfold runVersion
  apply Ends.bind_of_ok (rfl : PipelineAction.drawCorrelation state = (.ok ids.run, _))
  apply Ends.bind_of_ok (rfl : PipelineAction.now _ = (.ok startedAt, begun))
  have hcreate : Ends (PipelineAction.onRuns (RunStore.createRun draft startedAt)) begun _ _ :=
    PipelineAction.onRuns_ends (RunStore.createRun_ends state.runs draft startedAt)
  apply hcreate.bind_mono
  · rintro started _ ⟨created, ⟨hstarted, hkey, hopened⟩, rfl⟩
    rcases hexecute : Execution.execute pipeline.services started version record ids.run
      begun.world with ⟨answer, left⟩
    have hexecutes : pipeline.Executes workflow id version record state started answer left :=
      ⟨⟨event, hstarted⟩, hexecute⟩
    have hsettles := Execution.execute_settles pipeline.services started version record ids.run
      begun.world
    rw [hexecute] at hsettles
    let result := resultOf ids answer
    apply Ends.bind_of_ok (onWorld_executeRun { begun with runs := created } hexecute)
    let finishedAt := Timestamp.ofNanos (Action.now left).1
    -- the run has been executed and the clock has been read again
    let timed : PipelineState σ := { begun with runs := created, world := (Action.now left).2 }
    apply Ends.bind_of_ok (rfl : PipelineAction.now _ = (.ok finishedAt, timed))
    obtain ⟨ended, hended⟩ : ∃ ended,
        started.finish result.status result.error finishedAt = .ok ended := by
      rw [hstarted]
      exact ⟨_, if_pos ⟨rfl, isTerminal_resultOf hsettles⟩⟩
    have htells : RunEntry.Tells ⟨ended, result.steps⟩ started answer :=
      tells_resultOf hsettles hended
    have hread : (MonadExcept.ofExcept ((started.finish result.status result.error
        finishedAt).mapError .run) : PipelineAction σ Run) timed = (.ok ended, timed) := by
      rw [hended]
      rfl
    apply Ends.bind_of_ok hread
    have hfinish : Ends (PipelineAction.onRuns (RunStore.finishRun ended result.steps)) timed _ _ :=
      PipelineAction.onRuns_ends (RunStore.finishRun_ends created ended result.steps)
    apply hfinish.bind_mono
    · rintro _ _ ⟨closed, hclosed, rfl⟩
      refine .pure ⟨started, ⟨ended, result.steps⟩, ?_, rfl⟩
      exact ⟨hkey, ⟨answer, left, hexecutes, htells, rfl⟩, ⟨rfl, rfl⟩,
        (hopened.closed ended result.steps).trans hclosed⟩
    · rintro error _ ⟨hcause, closed, ⟨hclosed, hmissing⟩, rfl⟩
      refine ⟨hcause, .unended started answer left hexecutes ⟨rfl, rfl⟩ (hopened.trans hclosed) ?_⟩
      -- a store that does not fail has the run that was created in it
      intro hreliable
      apply hmissing (hreliable.of_plan_eq hopened.plan_eq)
      rw [hopened.runs_eq, htells.id_eq]
      exact RunStore.contains_opened state.runs started
  · rintro error _ ⟨hcause, runs, ⟨hruns, hkey⟩, rfl⟩
    exact ⟨hcause, .unstarted ⟨rfl, rfl⟩ hruns hkey⟩

end Pipeline

end TelemetryAutomation
