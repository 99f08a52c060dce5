import TelemetryAutomation.Pipeline.Basic
import TelemetryAutomation.Trigger.Match

/-!
# Handling telemetry

A telemetry record starts a run of every version that it sets off and that is the active version of
its workflow, in ascending order of the versions. Each run is stored when it starts and again when it
has ended. A version that cannot be executed fails its own run and no other.
-/

namespace TelemetryAutomation

variable {σ : Type}

/-- A run that has ended, with what identifies its steps. -/
structure RunOutcome where
  run : Run
  steps : List StepSummary
deriving DecidableEq

instance : ToJson RunOutcome where
  toJson o := .object [("run", toJson o.run), ("steps", toJson o.steps)]

namespace Pipeline

/-- What started the runs. -/
def telemetryTrigger : String := "telemetry"

/-- The ids that link an event and a run of it. -/
structure Correlations where
  event : CorrelationId
  run : CorrelationId

/-- The fields that show the ids. -/
def Correlations.fields (ids : Correlations) : List (String × Json) :=
  [("event_correlation_id", toJson ids.event), ("run_correlation_id", toJson ids.run)]

/-- What a run shows of the record that started it. -/
def triggerPayload (record : TelemetryRecord) (ids : Correlations) : Json :=
  .object <|
    [("telemetry_record_id", toJson record.id),
      ("device_id", toJson record.device),
      ("schema_version_topic_id", toJson record.topic)] ++ ids.fields

/-- The result of a run that could not be executed. -/
def raised (error : ExecutionError) (ids : Correlations) : ExecutionResult where
  status := .failed
  steps := []
  error := some <| .object <|
    [("reason", .str "workflow_execution_exception"), ("message", .str error.message)] ++ ids.fields

/-- A version with its workflow, if both are stored and the version is active. -/
def liveVersion? (id : Key .workflowVersion) :
    PipelineAction σ (Option (Workflow × WorkflowVersion)) := do
  match ← PipelineAction.onWorkflows (WorkflowStore.version? id) with
  | none => return none
  | some version =>
    let workflow ← PipelineAction.onWorkflows (WorkflowStore.workflow? version.workflow)
    return (workflow.filter (·.activeVersion = some id)).map (·, version)

/-- The start of a run of a version. -/
def draftOf (workflow : Workflow) (version : Key .workflowVersion) (record : TelemetryRecord)
    (ids : Correlations) : RunDraft where
  organization := workflow.organization
  workflow := workflow.id
  workflowVersion := version
  triggerType := telemetryTrigger
  triggerPayload := triggerPayload record ids

/-- Executes a run and makes the failure to do so its result. -/
def executeRun (pipeline : Pipeline σ) (run : Run) (version : WorkflowVersion)
    (record : TelemetryRecord) (ids : Correlations) : Action σ ExecutionResult := do
  match ← Execution.execute pipeline.services run version record ids.run with
  | .ok result => return result
  | .error error => return raised error ids

/-- Runs a version of a workflow for a record. -/
def runVersion (pipeline : Pipeline σ) (workflow : Workflow) (id : Key .workflowVersion)
    (version : WorkflowVersion) (record : TelemetryRecord) (event : CorrelationId) :
    PipelineAction σ RunOutcome := do
  let ids : Correlations := ⟨event, ← PipelineAction.drawCorrelation⟩
  let draft := draftOf workflow id record ids
  let run ← PipelineAction.onRuns (RunStore.createRun draft (← PipelineAction.now))
  let result ← PipelineAction.onWorld (pipeline.executeRun run version record ids)
  let finishedAt ← PipelineAction.now
  let ended ← MonadExcept.ofExcept <|
    (run.finish result.status result.error finishedAt).mapError .run
  PipelineAction.onRuns (RunStore.finishRun ended result.steps)
  return ⟨ended, result.summaries⟩

/-- Runs a version that was set off, if it is live. -/
def runIfLive (pipeline : Pipeline σ) (record : TelemetryRecord) (event : CorrelationId)
    (id : Key .workflowVersion) : PipelineAction σ (Option RunOutcome) := do
  match ← liveVersion? id with
  | none => return none
  | some (workflow, version) =>
    return some (← pipeline.runVersion workflow id version record event)

/-- Runs whatever a telemetry record sets off; nothing while the pipeline is disabled. -/
def handle (pipeline : Pipeline σ) (record : TelemetryRecord) :
    PipelineAction σ (List RunOutcome) := do
  if pipeline.enabled then
    let event ← PipelineAction.drawCorrelation
    let services := pipeline.services
    let versions ← PipelineAction.onIndex (Trigger.matching services.catalog services.evaluate record)
    let outcomes ← versions.mapM (pipeline.runIfLive record event)
    return outcomes.filterMap id
  else return []

end Pipeline

end TelemetryAutomation
