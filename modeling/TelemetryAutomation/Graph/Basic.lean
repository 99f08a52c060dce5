import TelemetryAutomation.Graph.Node

/-!
# Workflow graphs

A graph is read from the editor's document: a version number, the nodes and edges in their order,
and the viewport, which means nothing here. The order matters: triggers run in the order of the
nodes, and the children of a node in the order of its edges.

Reading is lenient about everything but the version number. What should be a list and is not counts
as empty, and an item that is no object counts as blank and keeps its place.
-/

namespace TelemetryAutomation

/-- A workflow as drawn. -/
structure Graph where
  version : Int64
  nodes : List Node
  edges : List Edge
  viewport : Json
deriving DecidableEq

/-- Why a document is no graph. -/
inductive GraphError
  | notMapping
  | field (error : ReadError)

/-- The wording of an error. -/
def GraphError.message : GraphError → String
  | notMapping => "malformed workflow graph: graph must be a mapping"
  | field error => s!"malformed workflow graph: {error.message}"

namespace Graph

/-- The version number of a graph that gives none. -/
def firstVersion : Int64 := 1

/-- A graph of nodes and edges. -/
def new (nodes : List Node) (edges : List Edge) : Graph := ⟨firstVersion, nodes, edges, .null⟩

/-- An item of a list; one that is no object or cannot be read is blank. -/
def lenientItem {α : Type} [FromDocument α] (blank : α) : Json → α
  | .obj fields => (Json.obj fields).read.toOption.getD blank
  | _ => blank

/-- The items of a list, of which some may be blank; what is no list has none. -/
def lenientList {α : Type} [FromDocument α] (blank : α) : Json → List α
  | .arr items => items.map (lenientItem blank)
  | _ => []

/-- Reads the fields of a graph. -/
def reader : RecordReader Graph := do
  return {
    version := ← .defaulted "version" firstVersion
    nodes := lenientList .blank (← .defaulted "nodes" .null)
    edges := lenientList .blank (← .defaulted "edges" .null)
    viewport := ← .defaulted "viewport" .null }

/-- The graph of a stored document, which has to be an object. -/
def ofJson (document : Json) : Except GraphError Graph :=
  match document with
  | .obj _ => (reader.read document.toDocument).mapError .field
  | _ => .error .notMapping

/-- The first node with an id. -/
def node? (graph : Graph) (id : NodeId) : Option Node := graph.nodes.find? (·.id = id)

/-- The nodes that start runs on telemetry, in order. -/
def telemetryTriggers (graph : Graph) : List Node :=
  graph.nodes.filter (·.kind? = some .telemetryTrigger)

end Graph

instance : FromDocument Graph := ⟨Graph.reader.read⟩

instance : ToJson Graph where
  toJson g := .object <|
    [("version", toJson g.version), ("nodes", toJson g.nodes), ("edges", toJson g.edges)] ++
      if g.viewport.isNull then [] else [("viewport", g.viewport)]

end TelemetryAutomation
