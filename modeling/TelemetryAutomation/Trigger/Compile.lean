import TelemetryAutomation.Catalog.Resolution
import TelemetryAutomation.Graph.Basic
import TelemetryAutomation.Graph.Settings
import TelemetryAutomation.Trigger.Index
import TelemetryAutomation.Workflow.Basic

/-!
# Compiling triggers

The telemetry triggers of a graph are compiled into rows of the index, one for each device and topic.
A trigger that does not wait for events, or whose source cannot be resolved any more, has no row. The
rows replace those that the version had before.
-/

namespace TelemetryAutomation

/-- How many rows a compilation deleted and inserted. -/
structure CompileResult where
  deleted : Nat
  inserted : Nat
deriving DecidableEq, Repr

instance : ToJson CompileResult where
  toJson r := .object [("deleted", toJson r.deleted), ("inserted", toJson r.inserted)]

namespace Trigger

/-- The row of a source. -/
def rowOf (organization : Key .organization) (version : Key .workflowVersion)
    (source : TriggerSource) : TriggerRow where
  organization := organization
  workflowVersion := version
  device := some source.device.id
  deviceType := some source.device.deviceType
  topic := some source.topic.id
  filter := none

/-- The keys of the source of a trigger that waits for events. -/
def eventSource? (node : Node) : Option (Key .device × Key .topic × Key .parameter) := do
  let settings ← node.triggerSettings?
  guard (settings.mode = some "event")
  settings.source?

/-- The row of a trigger, if its source can be resolved. -/
def row? (catalog : Catalog) (organization : Key .organization) (version : Key .workflowVersion)
    (node : Node) : Except CatalogError (Option TriggerRow) :=
  match eventSource? node with
  | none => .ok none
  | some (device, topic, parameter) =>
    match catalog.resolveTriggerSource organization device topic parameter with
    | .ok source => .ok (some (rowOf organization version source))
    | .error (.catalog error) => .error error
    | .error _ => .ok none

/-- Adds a row unless its device and topic have one. -/
def addRow (rows : List TriggerRow) (row : TriggerRow) : List TriggerRow :=
  if rows.any fun other => other.device = row.device && other.topic = row.topic then rows
  else rows ++ [row]

/-- The rows of a graph in the order of its triggers. -/
def rows (catalog : Catalog) (organization : Key .organization) (version : Key .workflowVersion)
    (graph : Graph) : Except CatalogError (List TriggerRow) := do
  let found ← graph.telemetryTriggers.mapM (row? catalog organization version)
  return (found.filterMap id).foldl addRow []

/-- Replaces the rows of a version by those of a graph. Nothing is deleted if the catalog fails. -/
def compile (catalog : Catalog) (organization : Key .organization)
    (version : Key .workflowVersion) (graph : Graph) : IndexAction CompileResult := do
  match rows catalog organization version graph with
  | .error error => throw (.catalog error)
  | .ok rows =>
    let deleted ← TriggerIndex.delete version
    let inserted ← TriggerIndex.insert rows
    return { deleted, inserted }

end Trigger

end TelemetryAutomation
