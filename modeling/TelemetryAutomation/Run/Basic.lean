import TelemetryAutomation.Identity.Key
import TelemetryAutomation.Time.Timestamp

/-!
# Runs

A run is one execution of a workflow version for one event. It starts as running and is finished
once, as completed or as failed.
-/

namespace TelemetryAutomation

/-- The state of a run. -/
inductive RunStatus
  | running
  | completed
  | failed
deriving DecidableEq, Repr

namespace RunStatus

/-- All states. -/
def all : List RunStatus := [running, completed, failed]

/-- Whether the run has ended. -/
def isTerminal : RunStatus → Bool
  | running => false
  | completed | failed => true

/-- The written name. -/
def name : RunStatus → String
  | running => "running"
  | completed => "completed"
  | failed => "failed"

end RunStatus

/-- An execution of a workflow version. -/
structure Run where
  id : Key .run
  organization : Key .organization
  workflow : Key .workflow
  workflowVersion : Key .workflowVersion
  /-- What started the run. -/
  triggerType : String
  triggerPayload : Json
  status : RunStatus
  startedAt : Timestamp
  finishedAt : Option Timestamp
  errorSummary : Option Json
deriving DecidableEq

/-- Everything that a run starts from besides its key. -/
structure RunDraft where
  organization : Key .organization
  workflow : Key .workflow
  workflowVersion : Key .workflowVersion
  triggerType : String
  triggerPayload : Json
deriving DecidableEq

/-- A change of state that a run cannot make. -/
structure RunError where
  source : RunStatus
  target : RunStatus
deriving DecidableEq, Repr

/-- The wording of the error. -/
def RunError.message (error : RunError) : String :=
  s!"invalid run state transition from {error.source.name} to {error.target.name}"

namespace Run

/-- A run that has just started. -/
def start (id : Key .run) (draft : RunDraft) (startedAt : Timestamp) : Run where
  id := id
  organization := draft.organization
  workflow := draft.workflow
  workflowVersion := draft.workflowVersion
  triggerType := draft.triggerType
  triggerPayload := draft.triggerPayload
  status := .running
  startedAt := startedAt
  finishedAt := none
  errorSummary := none

/-- Ends a run that is running. -/
def finish (run : Run) (status : RunStatus) (errorSummary : Option Json) (finishedAt : Timestamp) :
    Except RunError Run :=
  if run.status = .running ∧ status.isTerminal then
    .ok { run with status, errorSummary, finishedAt := some finishedAt }
  else .error ⟨run.status, status⟩

end Run

instance : ToJson RunStatus := ⟨fun s => .str s.name⟩

instance : FromDocument RunStatus :=
  ⟨FromDocument.constant (RunStatus.all.map fun s => (s.name, s))⟩

instance : ToJson Run where
  toJson r := .object [
    ("id", toJson r.id),
    ("organization_id", toJson r.organization),
    ("workflow_id", toJson r.workflow),
    ("workflow_version_id", toJson r.workflowVersion),
    ("trigger_type", toJson r.triggerType),
    ("trigger_payload", r.triggerPayload),
    ("status", toJson r.status),
    ("started_at", toJson r.startedAt),
    ("finished_at", toJson r.finishedAt),
    ("error_summary", toJson r.errorSummary)]

instance : FromDocument Run where
  read := RecordReader.read do
    return {
      id := ← .required "id"
      organization := ← .required "organization_id"
      workflow := ← .required "workflow_id"
      workflowVersion := ← .required "workflow_version_id"
      triggerType := ← .required "trigger_type"
      triggerPayload := ← .required "trigger_payload"
      status := ← .required "status"
      startedAt := ← .required "started_at"
      finishedAt := ← .optional "finished_at"
      errorSummary := ← .optional "error_summary" }

end TelemetryAutomation
