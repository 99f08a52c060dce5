import TelemetryAutomation.Graph.Node
import TelemetryAutomation.Identity.Correlation
import TelemetryAutomation.Run.Basic

/-!
# Steps of a run

Every node that a run visits leaves a step behind: what went in, what came out, and the error if the
node failed. Steps are numbered from one in the order in which they happened, and the number is part
of the id that links a step to its run.
-/

namespace TelemetryAutomation

/-- How a node ended. -/
inductive StepStatus
  | completed
  | failed
  | skipped
deriving DecidableEq, Repr

namespace StepStatus

/-- All states. -/
def all : List StepStatus := [completed, failed, skipped]

/-- The written name. -/
def name : StepStatus → String
  | completed => "completed"
  | failed => "failed"
  | skipped => "skipped"

end StepStatus

/-- The record of one visited node. -/
structure RunStep where
  run : Key .run
  /-- The place within the run, counted from one. -/
  sequence : UInt32
  correlation : String
  node : NodeId
  nodeType : String
  status : StepStatus
  input : Json
  output : Json
  error : Option Json
  startedAt : Timestamp
  finishedAt : Timestamp
  durationMs : Int64
deriving DecidableEq

/-- What identifies a step. -/
structure StepSummary where
  node : NodeId
  nodeType : String
  status : StepStatus
  correlation : String
deriving DecidableEq

/-- How a run ended. -/
structure ExecutionResult where
  status : RunStatus
  steps : List RunStep
  error : Option Json
deriving DecidableEq

/-- The text of the reason that an error gives. -/
def reasonOf? (error : Option Json) : Option String :=
  (error.bind (·.field? "reason")).bind Json.str?

/-- An error with a reason. -/
def errorFor (reason : String) : Json := .object [("reason", .str reason)]

namespace RunStep

/-- The reason why the node failed. -/
def errorReason? (step : RunStep) : Option String := reasonOf? step.error

/-- What identifies the step. -/
def summary (step : RunStep) : StepSummary :=
  ⟨step.node, step.nodeType, step.status, step.correlation⟩

end RunStep

namespace ExecutionResult

/-- A run for a record that no trigger of the graph listens to. -/
def noMatchingTriggers : ExecutionResult :=
  ⟨.completed, [], some (errorFor "no_matching_trigger_nodes")⟩

/-- A run fails if one of its steps failed. -/
def ofSteps (steps : List RunStep) : ExecutionResult :=
  if steps.any (·.status = .failed) then
    ⟨.failed, steps, some (errorFor "node_execution_failed")⟩
  else ⟨.completed, steps, none⟩

/-- The reason of the run's error. -/
def errorReason? (result : ExecutionResult) : Option String := reasonOf? result.error

/-- What identifies the steps. -/
def summaries (result : ExecutionResult) : List StepSummary := result.steps.map RunStep.summary

end ExecutionResult

instance : ToJson StepStatus := ⟨fun s => .str s.name⟩

instance : FromDocument StepStatus :=
  ⟨FromDocument.constant (StepStatus.all.map fun s => (s.name, s))⟩

instance : ToJson RunStep where
  toJson s := .object [
    ("run_id", toJson s.run),
    ("sequence", toJson s.sequence),
    ("step_correlation_id", toJson s.correlation),
    ("node_id", .str s.node),
    ("node_type", toJson s.nodeType),
    ("status", toJson s.status),
    ("input_snapshot", s.input),
    ("output_snapshot", s.output),
    ("error", toJson s.error),
    ("started_at", toJson s.startedAt),
    ("finished_at", toJson s.finishedAt),
    ("duration_ms", toJson s.durationMs)]

instance : FromDocument RunStep where
  read := RecordReader.read do
    return {
      run := ← .required "run_id"
      sequence := ← .required "sequence"
      correlation := ← .required "step_correlation_id"
      node := (← .required "node_id" : String)
      nodeType := ← .required "node_type"
      status := ← .required "status"
      input := ← .required "input_snapshot"
      output := ← .required "output_snapshot"
      error := ← .optional "error"
      startedAt := ← .required "started_at"
      finishedAt := ← .required "finished_at"
      durationMs := ← .required "duration_ms" }

instance : ToJson StepSummary where
  toJson s := .object [
    ("node_id", .str s.node),
    ("node_type", toJson s.nodeType),
    ("status", toJson s.status),
    ("step_correlation_id", toJson s.correlation)]

instance : FromDocument StepSummary where
  read := RecordReader.read do
    return {
      node := (← .required "node_id" : String)
      nodeType := ← .required "node_type"
      status := ← .required "status"
      correlation := ← .required "step_correlation_id" }

instance : ToJson ExecutionResult where
  toJson r := .object [
    ("status", toJson r.status), ("steps", toJson r.steps), ("error", toJson r.error)]

instance : FromDocument ExecutionResult where
  read := RecordReader.read do
    return {
      status := ← .required "status"
      steps := ← .required "steps"
      error := ← .nullable "error" }

end TelemetryAutomation
