import TelemetryAutomation.Alert.Template
import TelemetryAutomation.Catalog.Resolution
import TelemetryAutomation.Graph.Settings
import TelemetryAutomation.Run.Outcome

/-!
# What nodes do

Each kind of node turns its settings and the context into an outcome. A fault in the settings, in a
reference or in a service is an outcome as well and never ends the run.
-/

namespace TelemetryAutomation

variable {σ : Type}

namespace Node

/-- The settings of a condition; a node without settings has empty ones. -/
def conditionSettings (node : Node) : ConditionSettings :=
  match node.typedSettings? with
  | some (.condition settings) => settings
  | _ => .none

/-- The settings of a command; a node without settings has empty ones. -/
def commandSettings (node : Node) : CommandSettings :=
  match node.typedSettings? with
  | some (.command settings) => settings
  | _ => .none

/-- A condition lets the run pass if its expression holds. -/
def runCondition (services : Services σ) (settings : ConditionSettings) (context : Context) :
    Outcome :=
  match settings.expression? with
  | none => .failed .expressionMissing
  | some expression =>
    let result := services.evaluate expression context.evaluationData
    let passed := result.holds
    { status := .completed
      output := .object [("passed", .bool passed), ("evaluation_result", result)]
      error := none
      next := if passed then some context else none }

/-- The outcome of a command that was handed over. -/
def commandOutcome (target : CommandTarget) (log : CommandLog) (context : Context) : Outcome :=
  let sent := [("command_log_id", toJson log.id), ("command_status", .str log.status.name)]
  if log.status = .failed then .failedWith (.object sent) (.commandFailed log.errorMessage)
  else .completed
    (.object (sent ++
      [("target_device_id", toJson target.device.id), ("target_topic_id", toJson target.topic.id)]))
    context

/-- A command sends its payload to its target, which has to belong to the run's organization. -/
def runCommand (services : Services σ) (run : Run) (settings : CommandSettings)
    (context : Context) : Action σ Outcome := do
  match settings.target.bind TargetRef.complete?, settings.payload with
  | some (device, topic), some payload =>
    match services.catalog.resolveCommandTarget run.organization device topic with
    | .error (.device _) => return .failed .targetDeviceInvalid
    | .error (.topic _ _) | .error (.parameter _) => return .failed .targetTopicInvalid
    | .error (.catalog error) => return .failed (.catalogFailed error)
    | .ok target =>
      let time ← Action.now
      let send := services.dispatch target.device target.topic payload none (.ofNanos time)
      match ← Action.outside send with
      | .error error => return .failed (.dispatchFailed error)
      | .ok log => return commandOutcome target log context
  | _, _ => return .failed .commandIncomplete

/-- A query adds its result to the context. -/
def runQuery (query : QueryService σ) (run : Run) (node : Node) (context : Context) :
    Action σ Outcome := do
  match node.settings? with
  | none => return .failed .querySettingsMissing
  | some settings =>
    match ← Action.outside (query.execute run settings context) with
    | .ok result => return .completed result (context.withQueryResult node.id result)
    | .error error => return .failed (.queryFailed error)

/-- Renders the message of an alert. -/
def renderMessage (subject body : String) (recipients : List String) (template : Json) :
    AlertMessage where
  channel := Alert.mailChannel
  recipients := recipients
  subject := Text.trimmed (Template.render subject template)
  body := Text.trimmed (Template.render body template)

/-- Sends a rendered alert unless its key is claimed; a failed delivery leaves the key free. -/
def sendAlert (deliver : AlertMessage → Json → σ → Except AlertError Json × σ) (key : String)
    (cooldown : Cooldown) (message : AlertMessage) (template : Json) (context : Context) :
    Action σ Outcome := do
  if ← Action.acquire key cooldown then
    match ← Action.outside (deliver message template) with
    | .error error =>
      Action.release key
      return .failed (.deliveryFailed error)
    | .ok receipt =>
      return .completed
        (.object [
          ("channel", .str message.channel),
          ("subject", .str message.subject),
          ("body", .str message.body),
          ("recipients", .ofStrings message.recipients),
          ("cooldown", toJson cooldown),
          ("cooldown_key", .str key),
          ("dispatch", receipt)])
        context
  else
    return {
      status := .skipped
      output := .object [
        ("reason", .str "alert_cooldown_active"),
        ("cooldown_key", .str key),
        ("cooldown", toJson cooldown)]
      error := none
      next := some context }

/-- The templates of the subject and the body of an alert on the only channel. -/
def alertTexts? (settings : Object) : Option (String × String) :=
  if settings.text? "channel" = some Alert.mailChannel then do
    return (← settings.text? "subject", ← settings.text? "body")
  else none

/-- An alert is rendered and sent to its recipients. -/
def runAlert (services : Services σ)
    (deliver : AlertMessage → Json → σ → Except AlertError Json × σ) (run : Run) (node : Node)
    (context : Context) : Action σ Outcome := do
  match node.settings?.filter (!·.isEmpty) with
  | none => return .skipped .alertSettingsMissing context
  | some settings =>
    if !Alert.isDelivering settings then return .skipped .alertPlaceholder context
    else
      match alertTexts? settings, Recipient.resolve (settings.get? "recipients") with
      | none, _ => return .failed .alertIncomplete
      | some _, .error error => return .failed (.recipientInvalid error)
      | some _, .ok [] => return .failed .recipientsMissing
      | some (subject, body), .ok recipients =>
        let cooldown := (Cooldown.ofSettings? (settings.get? "cooldown")).getD
          services.defaultCooldown
        let template := Alert.templateContext run context node.id cooldown
        let message := renderMessage subject body recipients template
        if message.subject.isEmpty || message.body.isEmpty then return .failed .contentEmpty
        else
          let key := Alert.cooldownKey run.workflowVersion node.id context.trigger
          sendAlert deliver key cooldown message template context

/-- Executes a node. Triggers below another trigger and nodes without a service are passed over. -/
def execute (services : Services σ) (run : Run) (node : Node) (kind : NodeKind)
    (context : Context) : Action σ Outcome :=
  match kind with
  | .condition => return runCondition services node.conditionSettings context
  | .command => runCommand services run node.commandSettings context
  | .query =>
    match services.query with
    | some query => runQuery query run node context
    | none => return .skipped .notImplemented context
  | .alert =>
    match services.deliver with
    | some deliver => runAlert services deliver run node context
    | none => return .skipped .notImplemented context
  | .telemetryTrigger | .scheduleTrigger | .other _ => return .skipped .notImplemented context

end Node

end TelemetryAutomation
