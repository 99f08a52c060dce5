import TelemetryAutomation.Proofs.Catalog.Resolution
import TelemetryAutomation.Proofs.Json.Documents
import TelemetryAutomation.Run.Behavior

/-!
# What commands and alerts come to

A command fails at once or is handed over, and an alert is settled by its settings or is sent under the key
of its node. Which of the two it is depends on the catalog, the run and the node, and not on the world or on
what the services do there: `runCommand_cases` and `runAlert_cases` hold of all services at once.
-/

namespace TelemetryAutomation

/-- The settings of a command resolve to a target with a payload. -/
structure CommandSettings.Resolves (catalog : Catalog) (organization : Key .organization)
    (settings : CommandSettings) (target : CommandTarget) (payload : Object) : Prop where
  target_eq : ∃ device topic, settings.target.bind TargetRef.complete? = some (device, topic) ∧
    catalog.resolveCommandTarget organization device topic = .ok target
  payload_eq : settings.payload = some payload

theorem CommandSettings.Resolves.organization_eq {catalog : Catalog}
    {organization : Key .organization} {settings : CommandSettings} {target : CommandTarget}
    {payload : Object} (h : settings.Resolves catalog organization target payload) :
    target.device.organization = organization := by
  obtain ⟨device, topic, -, hresolved⟩ := h.target_eq
  obtain ⟨-, horganization, -⟩ := Catalog.resolveCommandTarget_eq_ok.mp hresolved
  exact horganization

/-- The written fault gives its reason. -/
theorem StepFault.reasonOf?_toJson (fault : StepFault) :
    reasonOf? (some (toJson fault)) = some fault.reason := by
  show ((Json.object (("reason", .str fault.reason) ::
    optionalField "message" fault.message?)).field? "reason").bind Json.str? = some fault.reason
  rw [Json.field?_object, optionalField]
  -- the message stands under another name
  cases fault.message? with
  | none => rfl
  | some message => rfl

namespace Node

variable {σ : Type}

/-- What a node does, by its kind: what conditions, commands, queries and alerts do, and nothing for all
others and where a service is missing. -/
theorem execute_cases (services : Services σ) (run : Run) (node : Node) (kind : NodeKind)
    (context : Context) :
    (kind = .condition ∧ node.execute services run kind context =
      pure (runCondition services node.conditionSettings context)) ∨
    (kind = .command ∧ node.execute services run kind context =
      runCommand services run node.commandSettings context) ∨
    (∃ query, kind = .query ∧ services.query = some query ∧
      node.execute services run kind context = runQuery query run node context) ∨
    (∃ deliver, kind = .alert ∧ services.deliver = some deliver ∧
      node.execute services run kind context = runAlert services deliver run node context) ∨
    (kind ≠ .condition ∧ kind ≠ .command ∧ node.execute services run kind context =
      pure (.skipped .notImplemented context)) := by
  cases kind with
  | condition => exact .inl ⟨rfl, rfl⟩
  | command => exact .inr (.inl ⟨rfl, rfl⟩)
  | query =>
    cases hservice : services.query with
    | none =>
      refine .inr (.inr (.inr (.inr ⟨nofun, nofun, ?_⟩)))
      simp only [execute, hservice]
    | some query =>
      refine .inr (.inr (.inl ⟨query, rfl, rfl, ?_⟩))
      simp only [execute, hservice]
  | alert =>
    cases hservice : services.deliver with
    | none =>
      refine .inr (.inr (.inr (.inr ⟨nofun, nofun, ?_⟩)))
      simp only [execute, hservice]
    | some deliver =>
      refine .inr (.inr (.inr (.inl ⟨deliver, rfl, rfl, ?_⟩)))
      simp only [execute, hservice]
  | telemetryTrigger => exact .inr (.inr (.inr (.inr ⟨nofun, nofun, rfl⟩)))
  | scheduleTrigger => exact .inr (.inr (.inr (.inr ⟨nofun, nofun, rfl⟩)))
  | other name => exact .inr (.inr (.inr (.inr ⟨nofun, nofun, rfl⟩)))

/-! ## Commands -/

/-- What comes of a command, by the answer of the dispatcher. -/
def answerOutcome (target : CommandTarget) (context : Context) :
    Except DispatchError CommandLog → Outcome
  | .error error => .failed (.dispatchFailed error)
  | .ok log => commandOutcome target log context

/-- A payload is handed over to a target. -/
def handOver (services : Services σ) (target : CommandTarget) (payload : Object) (context : Context) :
    Action σ Outcome := do
  let time ← Action.now
  let send := services.dispatch target.device target.topic payload none (.ofNanos time)
  return answerOutcome target context (← Action.outside send)

theorem runCommand_eq_handOver {services : Services σ} {run : Run} {settings : CommandSettings}
    {context : Context} {device : Key .device} {topic : Key .topic} {payload : Object}
    {target : CommandTarget} (hids : settings.target.bind TargetRef.complete? = some (device, topic))
    (hpayload : settings.payload = some payload)
    (hresolved : services.catalog.resolveCommandTarget run.organization device topic = .ok target) :
    runCommand services run settings context = handOver services target payload context := by
  simp only [runCommand, hids, hpayload, hresolved]
  refine congrArg _ (funext fun time => congrArg _ (funext fun answer => ?_))
  cases answer <;> rfl

/-- A command fails at once, or its settings resolve to what is handed over. -/
theorem runCommand_cases (catalog : Catalog) (run : Run) (settings : CommandSettings)
    (context : Context) :
    (∃ fault, ∀ (σ : Type) (services : Services σ), services.catalog = catalog →
      runCommand services run settings context = pure (.failed fault)) ∨
    ∃ target payload, settings.Resolves catalog run.organization target payload ∧
      ∀ (σ : Type) (services : Services σ), services.catalog = catalog →
        runCommand services run settings context = handOver services target payload context := by
  cases htarget : settings.target.bind TargetRef.complete? with
  | none =>
    refine .inl ⟨.commandIncomplete, ?_⟩
    rintro σ services rfl
    simp only [runCommand, htarget]
  | some ids =>
    obtain ⟨device, topic⟩ := ids
    cases hpayload : settings.payload with
    | none =>
      refine .inl ⟨.commandIncomplete, ?_⟩
      rintro σ services rfl
      simp only [runCommand, htarget, hpayload]
    | some payload =>
      cases hresolved : catalog.resolveCommandTarget run.organization device topic with
      | error error =>
        left
        cases error with
        | device =>
          refine ⟨.targetDeviceInvalid, ?_⟩
          rintro σ services rfl
          simp only [runCommand, htarget, hpayload, hresolved]
        | topic =>
          refine ⟨.targetTopicInvalid, ?_⟩
          rintro σ services rfl
          simp only [runCommand, htarget, hpayload, hresolved]
        | parameter =>
          refine ⟨.targetTopicInvalid, ?_⟩
          rintro σ services rfl
          simp only [runCommand, htarget, hpayload, hresolved]
        | catalog error =>
          refine ⟨.catalogFailed error, ?_⟩
          rintro σ services rfl
          simp only [runCommand, htarget, hpayload, hresolved]
      | ok target =>
        refine .inr ⟨target, payload, ⟨⟨device, topic, htarget, hresolved⟩, hpayload⟩, ?_⟩
        rintro σ services rfl
        exact runCommand_eq_handOver htarget hpayload hresolved

/-! ## Alerts -/

/-- The cooldown of an alert: the one in its settings, else a default. -/
def cooldown (default : Cooldown) (node : Node) : Cooldown :=
  (Cooldown.ofSettings? (node.settings?.bind (·.get? "cooldown"))).getD default

/-- What becomes of an alert that is not sent because of its settings. -/
inductive Unsent (context : Context) : Outcome → Prop
  | skipped (reason : SkipReason) : Unsent context (.skipped reason context)
  | failed (fault : StepFault) (hfault : ∀ error, fault ≠ .deliveryFailed error) :
      Unsent context (.failed fault)

section

variable (default : Cooldown) (run : Run) (node : Node) (context : Context)

/-- Whatever the services, the alert of a node has an outcome. -/
def AlertEnds (outcome : Outcome) : Prop :=
  ∀ (σ : Type) (services : Services σ) deliver, services.defaultCooldown = default →
    runAlert services deliver run node context = pure outcome

/-- Whatever the services, the alert of a node is sent under the key of the node. -/
def AlertSends (message : AlertMessage) (template : Json) : Prop :=
  ∀ (σ : Type) (services : Services σ) deliver, services.defaultCooldown = default →
    runAlert services deliver run node context =
      sendAlert deliver (Alert.cooldownKey run.workflowVersion node.id context.trigger)
        (node.cooldown default) message template context

variable {default run node context}

/-- An alert with all its settings is sent unless its subject or its body turns out to be empty. -/
theorem alertEnds_or_sends {settings : Object} {subject body first : String} {rest : List String}
    (hsettings : node.settings?.filter (!·.isEmpty) = some settings)
    (hdelivering : Alert.isDelivering settings) (htexts : alertTexts? settings = some (subject, body))
    (hrecipients : Recipient.resolve (settings.get? "recipients") = .ok (first :: rest)) :
    AlertEnds default run node context (.failed .contentEmpty) ∨
      ∃ message template, AlertSends default run node context message template := by
  have hcooldown : (Cooldown.ofSettings? (settings.get? "cooldown")).getD default =
      node.cooldown default := by
    obtain ⟨hsome, -⟩ := Option.filter_eq_some_iff.mp hsettings
    rw [cooldown, hsome, Option.bind_some]
  obtain ⟨template, htemplate⟩ : ∃ template, template =
    Alert.templateContext run context node.id (node.cooldown default) := ⟨_, rfl⟩
  obtain ⟨message, hmessage⟩ : ∃ message, message =
    renderMessage subject body (first :: rest) template := ⟨_, rfl⟩
  have hrun : ∀ (σ : Type) (services : Services σ) deliver, services.defaultCooldown = default →
      runAlert services deliver run node context =
        if message.subject.isEmpty || message.body.isEmpty then pure (.failed .contentEmpty)
        else
          sendAlert deliver (Alert.cooldownKey run.workflowVersion node.id context.trigger)
            (node.cooldown default) message template context := by
    rintro σ services deliver rfl
    simp only [runAlert, hsettings, hdelivering, htexts, hrecipients, hcooldown, ← htemplate,
      ← hmessage]
    rfl
  by_cases hempty : (message.subject.isEmpty || message.body.isEmpty) = true
  · left
    intro σ services deliver hdefault
    rw [hrun σ services deliver hdefault, if_pos hempty]
  · refine .inr ⟨message, template, ?_⟩
    intro σ services deliver hdefault
    rw [hrun σ services deliver hdefault, if_neg hempty]

variable (default run node context)

/-- An alert is settled by its settings, or a message is sent under the key of its node. -/
theorem runAlert_cases :
    (∃ outcome, Unsent context outcome ∧ AlertEnds default run node context outcome) ∨
      ∃ message template, AlertSends default run node context message template := by
  cases hsettings : node.settings?.filter (!·.isEmpty) with
  | none =>
    refine .inl ⟨_, .skipped .alertSettingsMissing, fun σ services deliver _ => ?_⟩
    simp only [runAlert, hsettings]
  | some settings =>
    by_cases hdelivering : Alert.isDelivering settings
    · cases htexts : alertTexts? settings with
      | none =>
        refine .inl ⟨_, .failed .alertIncomplete nofun, fun σ services deliver _ => ?_⟩
        simp [runAlert, hsettings, hdelivering, htexts]
      | some texts =>
        cases hrecipients : Recipient.resolve (settings.get? "recipients") with
        | error error =>
          refine .inl ⟨_, .failed (.recipientInvalid error) nofun, fun σ services deliver _ => ?_⟩
          simp [runAlert, hsettings, hdelivering, htexts, hrecipients]
        | ok recipients =>
          cases recipients with
          | nil =>
            refine .inl ⟨_, .failed .recipientsMissing nofun, fun σ services deliver _ => ?_⟩
            simp [runAlert, hsettings, hdelivering, htexts, hrecipients]
          | cons first rest =>
            refine (alertEnds_or_sends hsettings hdelivering htexts hrecipients).imp_left fun hends => ?_
            exact ⟨_, .failed .contentEmpty nofun, hends⟩
    · refine .inl ⟨_, .skipped .alertPlaceholder, fun σ services deliver _ => ?_⟩
      simp only [runAlert, hsettings, hdelivering]
      rfl

end

end Node

end TelemetryAutomation
