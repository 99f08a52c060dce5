import TelemetryAutomation.Catalog.Telemetry
import TelemetryAutomation.Run.Walk
import TelemetryAutomation.Workflow.Basic

/-!
# Executing a version for a telemetry record

The triggers of the graph that listen to the device and topic of the record start one branch each, in
the order of the nodes. The steps of all branches make up the run. It can only fail as a whole before
the first node is executed: the graph cannot be read, or the catalog does not answer.
-/

namespace TelemetryAutomation

variable {σ : Type}

/-- Why a version could not be executed at all. -/
inductive ExecutionError
  | malformedGraph (error : GraphError)
  | catalog (error : CatalogError)

/-- The wording of an error. -/
def ExecutionError.message : ExecutionError → String
  | malformedGraph error => s!"cannot execute run: {error.message}"
  | catalog error => s!"cannot resolve trigger contexts: {error.message}"

/-- A trigger that a record sets off, with what it puts out. -/
structure TriggerMatch where
  node : Node
  output : Json

namespace Execution

/-- The parameter that a trigger listens to, if it listens to the device and topic of the record. -/
def listensTo? (node : Node) (record : TelemetryRecord) : Option (Key .parameter) := do
  guard !node.id.isEmpty
  let settings ← node.triggerSettings?
  let (device, topic, parameter) ← settings.source?
  guard (device = record.device && topic = record.topic)
  return parameter

/-- The value of a parameter in a record: at its path, else under its key. -/
def valueOf (parameter : Parameter) (record : TelemetryRecord) : Json :=
  ((parameter.extract record.values).or (record.values.lookup parameter.key)).getD .null

/-- What a trigger puts out. -/
def triggerOutput (parameter : Parameter) (record : TelemetryRecord) : Json :=
  .object [
    ("value", valueOf parameter record),
    ("parameter_definition_id", toJson parameter.id),
    ("parameter_key", .str parameter.key),
    ("device_id", toJson record.device),
    ("schema_version_topic_id", toJson record.topic),
    ("recorded_at", .str record.recordedAt.secondsText)]

/-- The match of a trigger with a record. -/
def matchTrigger (catalog : Catalog) (record : TelemetryRecord) (node : Node) :
    Except CatalogError (Option TriggerMatch) :=
  match listensTo? node record with
  | none => .ok none
  | some id => do
    match ← catalog.parameter id with
    | some parameter =>
      if parameter.topic = record.topic then
        return some ⟨node, triggerOutput parameter record⟩
      else return none
    | none => return none

/-- The matches of a graph in the order of its nodes. -/
def matchTriggers (catalog : Catalog) (graph : Graph) (record : TelemetryRecord) :
    Except CatalogError (List TriggerMatch) := do
  let found ← graph.telemetryTriggers.mapM (matchTrigger catalog record)
  return found.filterMap id

/-- What a step shows as the input of a trigger. -/
def triggerInput (record : TelemetryRecord) : Json :=
  .object [
    ("telemetry_record_id", toJson record.id),
    ("device_id", toJson record.device),
    ("schema_version_topic_id", toJson record.topic)]

/-- Executes the branch of a trigger. -/
def runBranch (services : Services σ) (run : Run) (index : GraphIndex) (record : TelemetryRecord)
    (trigger : TriggerMatch) : Action σ (List Visit) := do
  let context := Context.new trigger.output record.values
  let (started, _) ← Walk.visit trigger.node (triggerInput record)
    (pure (.completed trigger.output context))
  let below ← Walk.walk services run index (Walk.childFrames index trigger.node.id context 1)
  return started :: below

/-- The step of the visit at a position, counted from zero. -/
def stepOf (run : Run) (correlation : CorrelationId) (position : Nat) (visit : Visit) : RunStep :=
  let sequence := min (position + 1) (UInt32.size - 1)
  let passed := (visit.finishedAt - visit.startedAt) / nanosPerMilli
  let millis := min (max passed 1) Int64.maxValue.toInt.toNat
  let finishedAt := Timestamp.ofNanos visit.finishedAt
  { run := run.id
    sequence := .ofNat sequence
    correlation := s!"{correlation}:{sequence}:{visit.node.sanitized}"
    node := visit.node
    nodeType := visit.nodeType
    status := visit.status
    input := visit.input
    output := visit.output
    error := visit.error
    startedAt := finishedAt.backMillis millis
    finishedAt := finishedAt
    durationMs := .ofNat millis }

/-- Executes the branches of all matches. -/
def runBranches (services : Services σ) (run : Run) (index : GraphIndex)
    (record : TelemetryRecord) (correlation : CorrelationId) (triggers : List TriggerMatch) :
    Action σ ExecutionResult := do
  let branches ← triggers.mapM (runBranch services run index record)
  return .ofSteps (branches.flatten.mapIdx (stepOf run correlation))

/-- Executes a version for a telemetry record. -/
def execute (services : Services σ) (run : Run) (version : WorkflowVersion)
    (record : TelemetryRecord) (correlation : CorrelationId) :
    Action σ (Except ExecutionError ExecutionResult) :=
  match version.readGraph with
  | .error error => return .error (.malformedGraph error)
  | .ok graph =>
    match matchTriggers services.catalog graph record with
    | .error error => return .error (.catalog error)
    | .ok [] => return .ok .noMatchingTriggers
    | .ok triggers =>
      .ok <$> runBranches services run graph.index record correlation triggers

end Execution

end TelemetryAutomation
