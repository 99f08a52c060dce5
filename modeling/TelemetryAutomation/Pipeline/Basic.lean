import TelemetryAutomation.Graph.Structure
import TelemetryAutomation.Pipeline.Settings
import TelemetryAutomation.Workflow.NodeCheck
import TelemetryAutomation.Run.Execution
import TelemetryAutomation.Store.Runs
import TelemetryAutomation.Trigger.Index

/-!
# The pipeline

The pipeline publishes versions of workflows and runs them on telemetry. It works on a trigger index,
the stores of workflows and runs, and the world in which runs take place. All of these are its state,
and a failure keeps what happened before it.
-/

namespace TelemetryAutomation

/-- Why the pipeline fails. -/
inductive PipelineError
  | malformedGraph (error : GraphError)
  | graph (error : StructuralError)
  | config (error : ConfigError)
  | index (error : TriggerIndexError)
  | repository (error : RepositoryError)
  | run (error : RunError)

namespace PipelineError

/-- The wording of an error. -/
def message : PipelineError → String
  | malformedGraph error => s!"cannot publish version: {error.message}"
  | graph error => s!"invalid workflow graph: {error.message}"
  | config error => s!"invalid node configuration: {error.message}"
  | index _ => "trigger index operation failed"
  | repository _ => "repository operation failed"
  | run error => s!"cannot finalize run: {error.message}"

/-- The wording of the errors behind an error that does not tell of them itself. -/
def causes : PipelineError → List String
  | index error => [error.message]
  | repository error => [error.message]
  | _ => []

end PipelineError

/-- A pipeline: its settings, and the services that its runs rely on. -/
structure Pipeline (σ : Type) where
  /-- Whether telemetry is handled at all. -/
  enabled : Bool
  services : Services σ

/-- A pipeline with settings. They decide about the depth of runs and the cooldown of alerts. -/
def Pipeline.ofSettings {σ : Type} (settings : Settings) (services : Services σ) : Pipeline σ where
  enabled := settings.enabled
  services := { services with
    defaultCooldown := settings.defaultCooldown
    maxDepth := settings.maxDepth }

/-- What a pipeline works on. -/
structure PipelineState (σ : Type) where
  index : TriggerIndex
  workflows : WorkflowStore
  runs : RunStore
  correlations : CorrelationSource
  world : World σ

/-- A state with empty stores. -/
def PipelineState.new {σ : Type} (world : World σ) : PipelineState σ :=
  ⟨.empty, .empty, .empty, .since world.clock.now, world⟩

/-- What a pipeline does. -/
abbrev PipelineAction (σ α : Type) := ExceptT PipelineError (StateM (PipelineState σ)) α

namespace PipelineAction

variable {σ α : Type}

/-- Uses the trigger index. -/
def onIndex (act : IndexAction α) : PipelineAction σ α := fun state =>
  let (result, index) := act state.index
  (result.mapError .index, { state with index })

/-- Uses the store of workflows. -/
def onWorkflows (act : WorkflowAction α) : PipelineAction σ α := fun state =>
  let (result, workflows) := act state.workflows
  (result.mapError .repository, { state with workflows })

/-- Uses the store of runs. -/
def onRuns (act : RunAction α) : PipelineAction σ α := fun state =>
  let (result, runs) := act state.runs
  (result.mapError .repository, { state with runs })

/-- Acts on the world. -/
def onWorld (act : Action σ α) : PipelineAction σ α := fun state =>
  let (result, world) := act state.world
  (.ok result, { state with world })

/-- Draws a new correlation id. -/
def drawCorrelation : PipelineAction σ CorrelationId := fun state =>
  let (id, correlations) := state.correlations.draw
  (.ok id, { state with correlations })

/-- The time. -/
def now : PipelineAction σ Timestamp := Timestamp.ofNanos <$> onWorld Action.now

end PipelineAction

end TelemetryAutomation
