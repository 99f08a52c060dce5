import TelemetryAutomation.Run.Step
import TelemetryAutomation.Store.Workflows

/-!
# Stored runs

The store assigns the keys of runs, one after the other from one on, and holds the runs with their
steps. Ending a run replaces it and adds the steps to those it has.
-/

namespace TelemetryAutomation

/-- The calls of the store. -/
inductive RunCall
  | createRun
  | finishRun
  | run
  | steps
deriving DecidableEq, Repr

/-- Runs and their steps by key. -/
structure RunStore where
  nextId : Int64
  runs : SortedMap (Key .run) Run
  steps : SortedMap (Key .run) (List RunStep)
  outages : Outages RunCall

/-- What uses the store; a failure keeps what happened before it. -/
abbrev RunAction := ExceptT RepositoryError (StateM RunStore)

namespace RunStore

/-- A store without runs. -/
def empty : RunStore := ⟨1, ∅, ∅, .none⟩

/-- Counts a call, which may fail. -/
def call (c : RunCall) : RunAction Unit := fun store =>
  let (failure, outages) := store.outages.next c
  let store := { store with outages }
  match failure with
  | some reason => (.error (.storage reason), store)
  | none => (.ok (), store)

/-- Stores a new run under the next key. -/
def createRun (draft : RunDraft) (startedAt : Timestamp) : RunAction Run := do
  call .createRun
  let store ← get
  match Key.new? store.nextId with
  | none => throw (.storage ("invalid run id " ++ Text.decimal store.nextId.toInt))
  | some id =>
    let run := Run.start id draft startedAt
    set { store with nextId := store.nextId + 1, runs := store.runs.insert id run }
    return run

/-- Stores the final state of a run and adds its steps. -/
def finishRun (run : Run) (steps : List RunStep) : RunAction Unit := do
  call .finishRun
  let store ← get
  unless store.runs.contains run.id do throw (.runNotFound run.id)
  let before := (store.steps.get? run.id).getD []
  set { store with
    runs := store.runs.insert run.id run
    steps := store.steps.insert run.id (before ++ steps) }

/-- Finds a run. -/
def run? (id : Key .run) : RunAction (Option Run) := do
  call .run
  return (← get).runs.get? id

/-- The steps of a run in the order in which they happened. -/
def stepsOf (id : Key .run) : RunAction (List RunStep) := do
  call .steps
  return ((← get).steps.get? id).getD []

end RunStore

end TelemetryAutomation
