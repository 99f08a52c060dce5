import TelemetryAutomation.Store.Outages
import TelemetryAutomation.Workflow.Basic

/-!
# Stored workflows

The store holds workflows and their published versions. A version can be stored only for a workflow
that is there.
-/

namespace TelemetryAutomation

/-- Why a store of workflows or runs refuses a call. -/
inductive RepositoryError
  | storage (reason : String)
  /-- A run is to be ended that was never created. -/
  | runNotFound (run : Key .run)
  /-- A version belongs to a workflow that is not there. -/
  | workflowNotFound (workflow : Key .workflow)
deriving DecidableEq

/-- The wording of an error. -/
def RepositoryError.message : RepositoryError → String
  | storage reason => s!"repository failure: {reason}"
  | runNotFound run => s!"run {run} not found"
  | workflowNotFound workflow => s!"workflow {workflow} not found"

/-- The calls of the store. -/
inductive WorkflowCall
  | saveWorkflow
  | workflow
  | saveVersion
  | version
deriving DecidableEq, Repr

/-- Workflows and versions by their keys. -/
structure WorkflowStore where
  workflows : SortedMap (Key .workflow) Workflow
  versions : SortedMap (Key .workflowVersion) WorkflowVersion
  /-- While the store lags, lookups of workflows find nothing. -/
  lags : Bool
  outages : Outages WorkflowCall

/-- What uses the store; a failure keeps what happened before it. -/
abbrev WorkflowAction := ExceptT RepositoryError (StateM WorkflowStore)

namespace WorkflowStore

/-- A store without workflows. -/
def empty : WorkflowStore := ⟨∅, ∅, false, .none⟩

/-- Counts a call, which may fail. -/
def call (c : WorkflowCall) : WorkflowAction Unit := fun store =>
  let (failure, outages) := store.outages.next c
  let store := { store with outages }
  match failure with
  | some reason => (.error (.storage reason), store)
  | none => (.ok (), store)

/-- Stores a workflow in the stead of any with its key. -/
def saveWorkflow (workflow : Workflow) : WorkflowAction Unit := do
  call .saveWorkflow
  modify fun store => { store with workflows := store.workflows.insert workflow.id workflow }

/-- Finds a workflow. -/
def workflow? (id : Key .workflow) : WorkflowAction (Option Workflow) := do
  call .workflow
  let store ← get
  return if store.lags then none else store.workflows.get? id

/-- Stores a version in the stead of any with its key. -/
def saveVersion (version : WorkflowVersion) : WorkflowAction Unit := do
  call .saveVersion
  unless (← get).workflows.contains version.workflow do
    throw (.workflowNotFound version.workflow)
  modify fun store => { store with versions := store.versions.insert version.id version }

/-- Finds a version. -/
def version? (id : Key .workflowVersion) : WorkflowAction (Option WorkflowVersion) := do
  call .version
  return (← get).versions.get? id

end WorkflowStore

end TelemetryAutomation
