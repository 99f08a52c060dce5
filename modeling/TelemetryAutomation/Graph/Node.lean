import TelemetryAutomation.Json.Record
import TelemetryAutomation.Text.Alphanumeric
import TelemetryAutomation.Text.Blank

/-!
# Nodes and edges

A workflow is drawn in an editor as nodes and edges. Both are kept as the editor wrote them: the
fields that matter here have a place of their own, everything else travels along in `extra`. A field
that should be a text and is not counts as the empty text, so that half-edited drawings can be read.
-/

namespace TelemetryAutomation

/-- The name of a node within its graph. -/
abbrev NodeId := String

/-- The id with every character that is no ASCII letter, digit, `_` or `-` replaced by `_`. -/
def NodeId.sanitized (id : NodeId) : String :=
  if id.isEmpty then "node"
  else .ofList (id.toList.map fun c =>
    if Text.isPlainAlphanumeric c || c = '_' || c = '-' then c else '_')

/-- What a node does. -/
inductive NodeKind
  | telemetryTrigger
  | scheduleTrigger
  | condition
  | command
  | query
  | alert
  /-- Anything else, under the name it has. -/
  | other (name : String)
deriving DecidableEq, Repr

namespace NodeKind

/-- The written name. -/
def name : NodeKind → String
  | telemetryTrigger => "telemetry-trigger"
  | scheduleTrigger => "schedule-trigger"
  | condition => "condition"
  | command => "command"
  | query => "query"
  | alert => "alert"
  | other name => name

/-- The kinds that are known. -/
def known : List NodeKind :=
  [telemetryTrigger, scheduleTrigger, condition, command, query, alert]

/-- The kind of a name between blanks; a blank name has none. -/
def ofName? (s : String) : Option NodeKind :=
  let s := Text.trimmed s
  if s.isEmpty then none else some ((known.find? (·.name = s)).getD (other s))

/-- Whether runs start at nodes of the kind. -/
def isTrigger : NodeKind → Bool
  | telemetryTrigger | scheduleTrigger => true
  | _ => false

/-- Whether the kind is known. -/
def isKnown : NodeKind → Bool
  | other _ => false
  | _ => true

end NodeKind

/-- A node of a graph. -/
structure Node where
  id : NodeId
  typeName : String
  data : Json
  /-- Whatever else the editor keeps. -/
  extra : Object
deriving DecidableEq

/-- An edge of a graph: after the source the target runs. -/
structure Edge where
  id : String
  source : String
  target : String
  /-- Whatever else the editor keeps. -/
  extra : Object
deriving DecidableEq

/-- The text of a value; anything that is no text counts as empty. -/
def Json.textOrEmpty (value : Json) : String := value.str?.getD ""

namespace Node

/-- The node without any content. -/
def blank : Node := ⟨"", "", .null, ∅⟩

/-- A node with settings. -/
def new (id : NodeId) (typeName : String) (settings : Json) : Node :=
  ⟨id, typeName, .object [("config", settings)], ∅⟩

/-- The names of the fields that have a place of their own. -/
def ownFields : List String := ["id", "type", "data"]

/-- Reads the fields of a node. -/
def reader : RecordReader Node := do
  return {
    id := (← .defaulted "id" .null : Json).textOrEmpty
    typeName := (← .defaulted "type" .null : Json).textOrEmpty
    data := ← .defaulted "data" .null
    extra := ← .others ownFields }

/-- The object that describes a node; data that is `null` is left out. -/
def toObject (node : Node) : Object :=
  let own := [("id", .str node.id), ("type", .str node.typeName)] ++
    if node.data.isNull then [] else [("data", node.data)]
  (SortedMap.ofList own).overlay node.extra

/-- What the node does; a blank type says nothing. -/
def kind? (node : Node) : Option NodeKind := NodeKind.ofName? node.typeName

/-- Whether runs start at the node. -/
def isTrigger (node : Node) : Bool := node.kind?.any (·.isTrigger)

/-- The settings of the node, if they are an object. -/
def settings? (node : Node) : Option Object := (node.data.field? "config").bind Json.obj?

end Node

namespace Edge

/-- The edge without any content. -/
def blank : Edge := ⟨"", "", "", ∅⟩

/-- An edge between two nodes. -/
def new (id source target : String) : Edge := ⟨id, source, target, ∅⟩

/-- The names of the fields that have a place of their own. -/
def ownFields : List String := ["id", "source", "target"]

/-- Reads the fields of an edge. -/
def reader : RecordReader Edge := do
  return {
    id := (← .defaulted "id" .null : Json).textOrEmpty
    source := (← .defaulted "source" .null : Json).textOrEmpty
    target := (← .defaulted "target" .null : Json).textOrEmpty
    extra := ← .others ownFields }

/-- The object that describes an edge. -/
def toObject (edge : Edge) : Object :=
  let own := [("id", .str edge.id), ("source", .str edge.source), ("target", .str edge.target)]
  (SortedMap.ofList own).overlay edge.extra

/-- The node that runs first, if one is named. -/
def source? (edge : Edge) : Option NodeId := if edge.source.isEmpty then none else some edge.source

/-- The node that runs afterwards, if one is named. -/
def target? (edge : Edge) : Option NodeId := if edge.target.isEmpty then none else some edge.target

end Edge

instance : ToJson Node := ⟨fun node => .obj node.toObject⟩
instance : ToJson Edge := ⟨fun edge => .obj edge.toObject⟩

instance : FromDocument Node := ⟨Node.reader.read⟩
instance : FromDocument Edge := ⟨Edge.reader.read⟩

end TelemetryAutomation
