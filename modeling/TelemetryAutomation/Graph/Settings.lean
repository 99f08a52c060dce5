import TelemetryAutomation.Condition.Guided
import TelemetryAutomation.Graph.Node
import TelemetryAutomation.Identity.Key

/-!
# Settings of nodes

The settings of a node, read for what the node does. Anything of the wrong type counts as missing, so
settings can be read from any object; what has to be complete is asked for where it is used.
-/

namespace TelemetryAutomation

/-- What a trigger refers to. -/
structure SourceRef where
  device : Option (Key .device)
  topic : Option (Key .topic)
  parameter : Option (Key .parameter)
deriving DecidableEq

/-- What a command refers to. -/
structure TargetRef where
  device : Option (Key .device)
  topic : Option (Key .topic)
deriving DecidableEq

/-- The settings of a telemetry trigger. -/
structure TriggerSettings where
  mode : Option String
  source : Option SourceRef
deriving DecidableEq

/-- The settings of a condition. -/
structure ConditionSettings where
  mode : Option String
  guided : Option GuidedCondition
  expression : Option Json
deriving DecidableEq

/-- The settings of a command. -/
structure CommandSettings where
  payloadMode : Option String
  target : Option TargetRef
  payload : Option Object
deriving DecidableEq

/-- The settings of a node by what it does. -/
inductive NodeSettings
  | telemetryTrigger (settings : TriggerSettings)
  | scheduleTrigger (settings : Object)
  | condition (settings : ConditionSettings)
  | command (settings : CommandSettings)
  | query (settings : Object)
  | alert (settings : Object)
  | unsupported
deriving DecidableEq

namespace Object

/-- The text under a name. -/
def text? (settings : Object) (name : String) : Option String :=
  (settings.get? name).bind Json.str?

/-- The object under a name. -/
def object? (settings : Object) (name : String) : Option Object :=
  (settings.get? name).bind Json.obj?

/-- The key under a name: a positive integer, as number or text. -/
def key? {entity : Entity} (settings : Object) (name : String) : Option (Key entity) :=
  (settings.get? name).bind Json.positive? |>.bind Key.new?

end Object

/-- Reads what a trigger refers to. -/
def SourceRef.ofSettings (source : Object) : SourceRef where
  device := source.key? "device_id"
  topic := source.key? "topic_id"
  parameter := source.key? "parameter_definition_id"

/-- All three keys, if none is missing. -/
def SourceRef.complete? (source : SourceRef) :
    Option (Key .device × Key .topic × Key .parameter) := do
  return (← source.device, ← source.topic, ← source.parameter)

/-- Reads what a command refers to. -/
def TargetRef.ofSettings (target : Object) : TargetRef where
  device := target.key? "device_id"
  topic := target.key? "topic_id"

/-- Both keys, if none is missing. -/
def TargetRef.complete? (target : TargetRef) : Option (Key .device × Key .topic) := do
  return (← target.device, ← target.topic)

/-- Reads the settings of a telemetry trigger. -/
def TriggerSettings.ofSettings (settings : Object) : TriggerSettings where
  mode := settings.text? "mode"
  source := (settings.object? "source").map .ofSettings

/-- All keys of the source of a trigger. -/
def TriggerSettings.source? (settings : TriggerSettings) :
    Option (Key .device × Key .topic × Key .parameter) :=
  settings.source.bind SourceRef.complete?

namespace ConditionSettings

/-- Settings that say nothing. -/
def none : ConditionSettings := ⟨.none, .none, .none⟩

/-- Reads the settings of a condition. -/
def ofSettings (settings : Object) : ConditionSettings where
  mode := settings.text? "mode"
  guided := (settings.object? "guided").map .ofSettings
  expression := settings.get? "json_logic"

/-- Whether the condition is set up as a comparison. -/
def isGuided (settings : ConditionSettings) : Bool := settings.mode = some "guided"

/-- The comparison as an expression, if there is one that can be compiled. -/
def guidedExpression? (settings : ConditionSettings) : Option Json :=
  if settings.isGuided then settings.guided.bind (·.compile.toOption) else .none

/-- The expression of the condition: the comparison, else the stored expression, which has to be an
object with fields. -/
def expression? (settings : ConditionSettings) : Option Json :=
  settings.guidedExpression?.or <|
    settings.expression.filter fun expression => expression.obj?.any (!·.isEmpty)

end ConditionSettings

namespace CommandSettings

/-- Settings that say nothing. -/
def none : CommandSettings := ⟨.none, .none, .none⟩

/-- Reads the settings of a command. -/
def ofSettings (settings : Object) : CommandSettings where
  payloadMode := settings.text? "payload_mode"
  target := (settings.object? "target").map .ofSettings
  payload := settings.object? "payload"

end CommandSettings

/-- Reads settings for what a node does. -/
def NodeSettings.ofSettings (kind : NodeKind) (settings : Object) : NodeSettings :=
  match kind with
  | .telemetryTrigger => .telemetryTrigger (.ofSettings settings)
  | .scheduleTrigger => .scheduleTrigger settings
  | .condition => .condition (.ofSettings settings)
  | .command => .command (.ofSettings settings)
  | .query => .query settings
  | .alert => .alert settings
  | .other _ => .unsupported

namespace Node

/-- The settings of a node, if it has a kind and an object of settings. -/
def typedSettings? (node : Node) : Option NodeSettings := do
  return .ofSettings (← node.kind?) (← node.settings?)

/-- The settings of a telemetry trigger. -/
def triggerSettings? (node : Node) : Option TriggerSettings :=
  match node.typedSettings? with
  | some (.telemetryTrigger settings) => some settings
  | _ => none

end Node

end TelemetryAutomation
