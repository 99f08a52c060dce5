import TelemetryAutomation.Graph.Node
import TelemetryAutomation.Json.Record

/-!
# Execution contexts

A context is what a node sees of the run so far. It starts with what the trigger found, and each
query adds its result for the nodes below it. Nothing else changes a context, so neighbouring
branches never see each other's results.

In the data of a condition the fields of the payload stand beside those of the context, and the
fields of the context win.
-/

namespace TelemetryAutomation

/-- What a node sees of a run. -/
structure Context where
  /-- What the trigger found. -/
  trigger : Json
  /-- The values of the telemetry record. -/
  payload : Object
  /-- The result of the nearest query above the node. -/
  query : Json
  /-- The results of all queries above the node. -/
  queries : Object
deriving DecidableEq

namespace Context

/-- The context below a trigger. -/
def new (trigger : Json) (payload : Object) : Context := ⟨trigger, payload, .obj ∅, ∅⟩

/-- The context below a query. -/
def withQueryResult (context : Context) (node : NodeId) (result : Json) : Context :=
  { context with query := result, queries := context.queries.insert node result }

/-- The fields of a context. -/
def fields (context : Context) : Object :=
  .ofList [
    ("trigger", context.trigger),
    ("payload", .obj context.payload),
    ("query", context.query),
    ("queries", .obj context.queries)]

/-- The data in which conditions are evaluated. -/
def evaluationData (context : Context) : Json := .obj (context.payload.overlay context.fields)

end Context

instance : ToJson Context := ⟨fun context => .obj context.fields⟩

instance : FromDocument Context where
  read := RecordReader.read do
    return {
      trigger := ← .required "trigger"
      payload := ← .required "payload"
      query := ← .required "query"
      queries := ← .required "queries" }

end TelemetryAutomation
