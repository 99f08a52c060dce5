import TelemetryAutomation.Pipeline.Environment
import TelemetryAutomation.Pipeline.Publish
import TelemetryAutomation.Pipeline.Telemetry
import TelemetryAutomation.Replay.Fixture

/-!
# Replaying fixtures

A replay publishes the versions of a fixture and feeds its telemetry through the pipeline. Commands
and alerts are kept instead of sent, and there are no queries.
-/

namespace TelemetryAutomation

/-- Why nothing can be replayed. -/
inductive ReplayError
  /-- No fixture was named. -/
  | usage
  | settings (error : Environment.EnvironmentError)
  /-- The fixture in a file cannot be read. -/
  | fixture (path reason : String)
  | pipeline (error : PipelineError)

namespace ReplayError

/-- The wording of an error. -/
def message : ReplayError → String
  | usage => "usage: sensorflow-replay <fixture.json>"
  | settings error => s!"invalid configuration: {error.message}"
  | fixture path reason => s!"invalid fixture: {path}: {reason}"
  | pipeline _ => "automation pipeline failed"

/-- The wording of the errors behind an error. -/
def causes : ReplayError → List String
  | pipeline error => error.message :: error.causes
  | _ => []

end ReplayError

/-- What came of a replay. -/
structure ReplaySummary where
  published : List PublishOutcome
  runs : List RunOutcome
  commands : List CommandLog
  alerts : List AlertMessage

instance : ToJson ReplaySummary where
  toJson s := .object [
    ("published", toJson s.published),
    ("runs", toJson s.runs),
    ("commands", toJson s.commands),
    ("alerts", toJson s.alerts)]

namespace Replay

/-- Publishes the versions of a workflow in order. -/
def publishAll (pipeline : Pipeline Recorder) (createdAt : Timestamp) (entry : WorkflowFixture) :
    PipelineAction Recorder (List PublishOutcome) :=
  entry.versions.mapM fun version =>
    pipeline.publish entry.workflow
      (.new version.id entry.workflow.id version.version version.graph createdAt)

/-- Publishes the versions of a fixture, then handles its telemetry. -/
def play (pipeline : Pipeline Recorder) (createdAt : Timestamp) (fixture : Fixture) :
    PipelineAction Recorder (List PublishOutcome × List RunOutcome) := do
  let published ← fixture.workflows.mapM (publishAll pipeline createdAt)
  let runs ← fixture.telemetry.mapM pipeline.handle
  return (published.flatten, runs.flatten)

/-- Replays a fixture, starting with empty stores. -/
def run (settings : Settings) (clock : Clock) (fixture : Fixture) :
    Except PipelineError ReplaySummary :=
  let catalog := (Inventory.ofSnapshot fixture.catalog).catalog
  let pipeline := Pipeline.ofSettings settings (Recorder.services catalog)
  let state := PipelineState.new ⟨clock, .empty, .empty⟩
  match play pipeline (.ofNanos clock.now) fixture state with
  | (.error error, _) => .error error
  | (.ok (published, runs), state) =>
    let recorder := state.world.outside
    .ok ⟨published, runs, recorder.desk.logs, recorder.outbox.sent⟩

/-- Replays the fixture in a file, given by its name and its text, or why it cannot be read. -/
def runFile (settings : Settings) (file : String × Except String String) (clock : Clock) :
    Except ReplayError ReplaySummary := do
  let (path, text) := file
  let text ← text.mapError (.fixture path)
  let fixture ← (Fixture.read text).mapError (.fixture path ·.message)
  (run settings clock fixture).mapError .pipeline

/-- Replays the fixture in a file with the settings that environment variables give. -/
def runText (environment : List (String × String)) (file : Option (String × Except String String))
    (clock : Clock) : Except ReplayError ReplaySummary := do
  let settings ← (Environment.settings environment).mapError .settings
  let some file := file | throw .usage
  runFile settings file clock

end Replay

end TelemetryAutomation
