import TelemetryAutomation.Catalog.Basic
import TelemetryAutomation.Store.Outages
import TelemetryAutomation.Trigger.Row

/-!
# The trigger index

The index is a list of rows in the order of their insertion. The rows of a version are deleted and
inserted by separate operations. Any call may fail, and a failing call changes nothing.
-/

namespace TelemetryAutomation

/-- Why the trigger index cannot be used. -/
inductive TriggerIndexError
  | store (reason : String)
  | catalog (error : CatalogError)
deriving DecidableEq

/-- The wording of an error. -/
def TriggerIndexError.message : TriggerIndexError → String
  | store reason => s!"trigger index store failed: {reason}"
  | catalog error => s!"trigger index catalog lookup failed: {error.message}"

/-- The calls of the index. -/
inductive IndexCall
  | delete
  | insert
  | candidates
  | versionRows
deriving DecidableEq, Repr

/-- The trigger index. -/
structure TriggerIndex where
  rows : List TriggerRow
  outages : Outages IndexCall

/-- What uses the index; a failure keeps what happened before it. -/
abbrev IndexAction := ExceptT TriggerIndexError (StateM TriggerIndex)

namespace TriggerIndex

/-- An index without rows. -/
def empty : TriggerIndex := ⟨[], .none⟩

/-- Counts a call, which may fail. -/
def call (c : IndexCall) : IndexAction Unit := fun index =>
  let (failure, outages) := index.outages.next c
  let index := { index with outages }
  match failure with
  | some reason => (.error (.store reason), index)
  | none => (.ok (), index)

/-- Deletes the rows of a version and tells how many there were. -/
def delete (version : Key .workflowVersion) : IndexAction Nat := do
  call .delete
  let index ← get
  let kept := index.rows.filter (·.workflowVersion ≠ version)
  set { index with rows := kept }
  return index.rows.length - kept.length

/-- Adds rows at the end and tells how many there are. -/
def insert (rows : List TriggerRow) : IndexAction Nat := do
  call .insert
  modify fun index => { index with rows := index.rows ++ rows }
  return rows.length

/-- The rows that wait for telemetry of a scope. -/
def candidates (scope : TelemetryScope) : IndexAction (List TriggerRow) := do
  call .candidates
  return (← get).rows.filter (·.covers scope)

/-- The rows of a version. -/
def versionRows (version : Key .workflowVersion) : IndexAction (List TriggerRow) := do
  call .versionRows
  return (← get).rows.filter (·.workflowVersion = version)

end TriggerIndex

end TelemetryAutomation
