import TelemetryAutomation.Alert.Settings
import TelemetryAutomation.Catalog.Payload
import TelemetryAutomation.Catalog.Resolution
import TelemetryAutomation.Graph.Basic
import TelemetryAutomation.Graph.Settings
import TelemetryAutomation.Run.Services
import TelemetryAutomation.Workflow.Basic

/-!
# Checking the settings of nodes

Before a graph is published, the settings of every node are checked for what the node does, and the
references of triggers and commands are resolved in the catalog. The nodes are checked in order, and
the first fault is reported.
-/

namespace TelemetryAutomation

variable {σ : Type}

/-- Why the settings of the nodes are refused. All errors but the last are about one node. -/
inductive ConfigError
  | nodeType (node : NodeId) (reason : String)
  | triggerSource (node : NodeId) (reason : String)
  | conditionExpression (node : NodeId) (reason : String)
  | commandTarget (node : NodeId) (reason : String)
  /-- The keys of the parameters whose values are refused, if any are. -/
  | commandPayload (node : NodeId) (reason : String) (parameters : List String)
  | alertConfig (node : NodeId) (reason : String)
  | queryConfig (node : NodeId) (reason : String)
  | catalogUnavailable (error : CatalogError)
deriving DecidableEq

namespace ConfigError

/-- The node that an error is about. -/
def node? : ConfigError → Option NodeId
  | nodeType node _ | triggerSource node _ | conditionExpression node _ | commandTarget node _
  | commandPayload node _ _ | alertConfig node _ | queryConfig node _ => some node
  | catalogUnavailable _ => none

/-- The wording of an error. -/
def message : ConfigError → String
  | nodeType node reason => s!"node [{node}] has an invalid type: {reason}"
  | triggerSource node reason => s!"telemetry trigger node [{node}] {reason}"
  | conditionExpression node reason => s!"condition node [{node}] {reason}"
  | commandTarget node reason => s!"command node [{node}] {reason}"
  | commandPayload node reason [] => s!"command node [{node}] {reason}"
  | commandPayload node reason parameters =>
    s!"command node [{node}] {reason}: " ++ ", ".intercalate parameters
  | alertConfig node reason => s!"alert node [{node}] {reason}"
  | queryConfig node reason => s!"query node [{node}] {reason}"
  | catalogUnavailable error =>
    s!"device catalog unavailable during validation: {error.message}"

end ConfigError

namespace NodeCheck

/-- The wording of a trigger whose source cannot be resolved. -/
def triggerError (node : NodeId) : ResolutionError → ConfigError
  | .device _ => .triggerSource node "references an invalid source device"
  | .topic _ _ => .triggerSource node "references an invalid publish topic"
  | .parameter _ => .triggerSource node "references an invalid telemetry parameter"
  | .catalog error => .catalogUnavailable error

/-- The wording of a command whose target cannot be resolved. -/
def targetError (node : NodeId) : ResolutionError → ConfigError
  | .device _ => .commandTarget node "references an invalid target device"
  | .topic _ _ | .parameter _ => .commandTarget node "references an invalid subscribe topic"
  | .catalog error => .catalogUnavailable error

/-- A trigger has to wait for events of a source that can be resolved. -/
def checkTrigger (catalog : Catalog) (organization : Key .organization) (node : NodeId)
    (settings : TriggerSettings) : Except ConfigError Unit := do
  unless settings.mode = some "event" do throw (.triggerSource node "must use event mode")
  let some source := settings.source | throw (.triggerSource node "must define a source")
  let some (device, topic, parameter) := source.complete?
    | throw (.triggerSource node "is missing source device, topic, or parameter")
  match catalog.resolveTriggerSource organization device topic parameter with
  | .ok _ => return ()
  | .error error => throw (triggerError node error)

/-- A condition is a comparison that can be compiled, or an expression with one operator. -/
def checkCondition (node : NodeId) (settings : ConditionSettings) : Except ConfigError Unit :=
  let refuse (reason : String) := Except.error (.conditionExpression node reason)
  if settings.mode = some "guided" then
    match settings.guided with
    | none => refuse "guided mode requires guided settings"
    | some guided =>
      match guided.compile with
      | .ok _ => .ok ()
      | .error error => refuse error.message
  else if settings.mode = some "json_logic" then
    if (settings.expression.bind Json.obj?).any (·.size = 1) then .ok ()
    else refuse "must define valid JSON logic"
  else refuse "has an invalid mode"

/-- A command has to have a target that can be resolved and a payload that its topic admits. -/
def checkCommand (catalog : Catalog) (organization : Key .organization) (node : NodeId)
    (settings : CommandSettings) : Except ConfigError Unit := do
  unless settings.payloadMode = some "schema_form" do
    throw (.commandPayload node "must use schema_form payload mode" [])
  let some target := settings.target | throw (.commandTarget node "must define a target")
  let some (device, topic) := target.complete?
    | throw (.commandTarget node "is missing target device or topic")
  let some payload := settings.payload
    | throw (.commandPayload node "must define a payload object" [])
  match catalog.resolveCommandTarget organization device topic with
  | .error error => throw (targetError node error)
  | .ok target =>
    match catalog.violations target.topic payload with
    | .error error => throw (.catalogUnavailable error)
    | .ok violations =>
      unless violations.isEmpty do
        throw (.commandPayload node "has invalid payload values" violations.keys)

/-- A query is checked by the service that will execute it. -/
def checkQuery (query : Option (QueryService σ)) (organization : Key .organization)
    (node : NodeId) (settings : Object) : Except ConfigError Unit :=
  match query with
  | none => .ok ()
  | some query => (query.check organization settings).mapError (.queryConfig node ·.message)

/-- The error of a node that needs settings and has none. -/
def missingSettings (kind : NodeKind) (node : NodeId) : ConfigError :=
  let reason := "requires a configuration"
  match kind with
  | .telemetryTrigger => .triggerSource node reason
  | .condition => .conditionExpression node reason
  | .command => .commandTarget node reason
  | .query => .queryConfig node reason
  | .alert => .alertConfig node reason
  | .scheduleTrigger | .other _ => .nodeType node reason

/-- The name of a node in errors. -/
def nodeName (node : Node) : NodeId := if node.id.isEmpty then "unknown-node" else node.id

/-- Checks the settings of a node of a kind that needs them. -/
def checkSettings (catalog : Catalog) (query : Option (QueryService σ))
    (organization : Key .organization) (node : NodeId) :
    NodeSettings → Except ConfigError Unit
  | .telemetryTrigger settings => checkTrigger catalog organization node settings
  | .condition settings => checkCondition node settings
  | .command settings => checkCommand catalog organization node settings
  | .query settings => checkQuery query organization node settings
  | .scheduleTrigger _ | .alert _ | .unsupported => .ok ()

/-- Checks one node. -/
def checkNode (catalog : Catalog) (query : Option (QueryService σ))
    (organization : Key .organization) (node : Node) : Except ConfigError Unit :=
  let name := nodeName node
  match node.kind? with
  | none => .error (.nodeType name "type is blank")
  | some (.other type) => .error (.nodeType name ("unknown type '" ++ type ++ "'"))
  | some .scheduleTrigger => .ok ()
  | some .alert => (Alert.checkSettings node.settings?).mapError (.alertConfig name ·.message)
  | some kind =>
    match node.typedSettings? with
    | none => .error (missingSettings kind name)
    | some settings => checkSettings catalog query organization name settings

end NodeCheck

/-- Checks the settings of all nodes of a graph for a workflow. -/
def Graph.checkNodes (catalog : Catalog) (query : Option (QueryService σ)) (workflow : Workflow)
    (graph : Graph) : Except ConfigError Unit :=
  graph.nodes.forM (NodeCheck.checkNode catalog query workflow.organization)

end TelemetryAutomation
