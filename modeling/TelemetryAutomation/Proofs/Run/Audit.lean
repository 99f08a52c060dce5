import TelemetryAutomation.Proofs.Catalog.Faithful
import TelemetryAutomation.Proofs.Run.Commands

/-!
# Steps as an audit of what was sent

A run may be given a recorder, which keeps the commands that it takes and the alerts that it delivers. Then
the steps of the run tell what the recorder keeps: each step of a command that shows the id of a log stands
for the command of this log, each completed step of an alert for its message, in the same order, and no other
step adds anything.
-/

namespace TelemetryAutomation

variable {σ α β : Type}

/-! ## The recorder -/

/-- What an answer of the desk says about the logs that it has added. -/
inductive CommandDesk.Logged (target : CommandTarget) (payload : Object) :
    Except DispatchError CommandLog → List CommandLog → Prop
  | refused {error : DispatchError} : Logged target payload (.error error) []
  | taken {log : CommandLog} (hdevice : log.device = target.device.id)
      (htopic : log.topic = target.topic.id) (hpayload : log.payload = payload) :
      Logged target payload (.ok log) [log]

theorem CommandDesk.dispatch_logs (desk : CommandDesk) (target : CommandTarget) (payload : Object)
    (user : Option (Key .user)) (time : Timestamp) :
    ∃ added,
      (desk.dispatch target.device target.topic payload user time).2.logs = desk.logs ++ added ∧
      Logged target payload (desk.dispatch target.device target.topic payload user time).1 added := by
  unfold dispatch
  cases desk.transportFailure with
  | some reason => exact ⟨[], (List.append_nil _).symm, .refused⟩
  | none =>
    cases Key.new? desk.nextId with
    | none => exact ⟨[], (List.append_nil _).symm, .refused⟩
    | some id => exact ⟨_, rfl, .taken rfl rfl rfl⟩

/-- What an answer of the outbox says about the messages that it has added. -/
inductive Outbox.Kept (message : AlertMessage) : Except AlertError Json → List AlertMessage → Prop
  | refused {error : AlertError} : Kept message (.error error) []
  | delivered {receipt : Json} : Kept message (.ok receipt) [message]

theorem Outbox.deliver_sent (outbox : Outbox) (message : AlertMessage) :
    ∃ added, (outbox.deliver message).2.sent = outbox.sent ++ added ∧
      Kept message (outbox.deliver message).1 added := by
  unfold deliver
  split
  · exact ⟨[], (List.append_nil _).symm, .refused⟩
  · cases outbox.failure with
    | some reason => exact ⟨[], (List.append_nil _).symm, .refused⟩
    | none => exact ⟨_, rfl, .delivered⟩

namespace Services

/-- Acts on the recorder and leaves the outside world beside it as it is. -/
def onRecorder (act : Recorder → α × Recorder) : Recorder × σ → α × (Recorder × σ) :=
  fun (recorder, outside) =>
    let (result, recorder) := act recorder
    (result, recorder, outside)

/-- Acts on the outside world and leaves the recorder beside it as it is. -/
def besideRecorder (act : σ → α × σ) : Recorder × σ → α × (Recorder × σ) :=
  fun (recorder, outside) =>
    let (result, outside) := act outside
    (result, recorder, outside)

/-- Services with a recorder that takes all commands and alerts. -/
def recording (services : Services σ) : Services (Recorder × σ) where
  catalog := services.catalog
  evaluate := services.evaluate
  dispatch device topic payload user time := onRecorder (Recorder.dispatch device topic payload user time)
  query := services.query.map fun query => {
    check := query.check
    execute := fun run settings context => besideRecorder (query.execute run settings context) }
  deliver := some fun message template => onRecorder (Recorder.deliver message template)
  defaultCooldown := services.defaultCooldown
  maxDepth := services.maxDepth

end Services

namespace Recorder

/-- The logs of the commands that a recorder has taken. -/
def logs (outside : Recorder × σ) : List CommandLog := outside.1.desk.logs

/-- The alerts that a recorder has delivered. -/
def sent (outside : Recorder × σ) : List AlertMessage := outside.1.outbox.sent

end Recorder

/-- Only commands add logs. -/
theorem Services.recording_lists (services : Services σ) :
    services.recording.Lists Recorder.logs CommandDesk.Logged where
  dispatch target payload user time world :=
    world.outside.1.desk.dispatch_logs target payload user time
  query := by
    intro query hquery run settings context world
    obtain ⟨query, -, rfl⟩ := Option.map_eq_some_iff.mp hquery
    exact (List.append_nil _).symm
  deliver := by
    rintro deliver ⟨⟩ message template world
    exact (List.append_nil _).symm

/-! ## What steps tell -/

namespace RunStep

/-- What the node does, by its type. -/
def kind? (step : RunStep) : Option NodeKind := NodeKind.ofName? step.nodeType

/-- A command that shows the id of a log. -/
def LogsCommand (step : RunStep) : Prop :=
  step.kind? = some .command ∧ (step.output.field? "command_log_id").isSome

/-- An alert that is completed. -/
def SendsAlert (step : RunStep) : Prop := step.kind? = some .alert ∧ step.status = .completed

instance (step : RunStep) : Decidable step.LogsCommand := inferInstanceAs (Decidable (_ ∧ _))

instance (step : RunStep) : Decidable step.SendsAlert := inferInstanceAs (Decidable (_ ∧ _))

/-- A step tells of a command: it shows the id and the status of the log, and the log has the target and the
payload of the settings of the node. -/
structure TellsOf (graph : Graph) (step : RunStep) (log : CommandLog) : Prop where
  id_eq : step.output.field? "command_log_id" = some (toJson log.id)
  status_eq : step.output.field? "command_status" = some (.str log.status.name)
  settings_eq : ∃ node, graph.index.node? step.node = some node ∧
    node.commandSettings.target.bind TargetRef.complete? = some (log.device, log.topic) ∧
    node.commandSettings.payload = some log.payload

/-- A step shows a message. -/
structure Shows (step : RunStep) (message : AlertMessage) : Prop where
  subject_eq : step.output.field? "subject" = some (.str message.subject)
  body_eq : step.output.field? "body" = some (.str message.body)
  recipients_eq : step.output.field? "recipients" = some (.ofStrings message.recipients)

/-- A command shows the id of a log if it is completed, or if it failed and shows that the command did. -/
def IdWhereTaken (step : RunStep) : Prop :=
  step.kind? = some .command →
    ((step.output.field? "command_log_id").isSome ↔
      step.status = .completed ∨
        step.status = .failed ∧ step.output.field? "command_status" = some (.str "failed"))

end RunStep

/-! ## What nodes tell -/

namespace Node

theorem output_commandOutcome (target : CommandTarget) (log : CommandLog) (context : Context) :
    (commandOutcome target log context).output.field? "command_log_id" = some (toJson log.id) ∧
      (commandOutcome target log context).output.field? "command_status" =
        some (.str log.status.name) := by
  unfold commandOutcome
  split
  · simp [Outcome.failedWith, Json.field?_object, List.lookup_cons]
  · simp [Outcome.completed, Json.field?_object, List.lookup_cons]

theorem status_commandOutcome (target : CommandTarget) (log : CommandLog) (context : Context) :
    (commandOutcome target log context).status =
      if log.status = .failed then .failed else .completed := by
  unfold commandOutcome
  split <;> rfl

/-- What a node adds to the alerts that are delivered. A message is added by an alert that is completed and
shows it. -/
inductive Delivers (kind : NodeKind) : Outcome → List AlertMessage → Prop
  | nothing {outcome : Outcome} (h : kind = .alert → outcome.status ≠ .completed) :
      Delivers kind outcome []
  | message {outcome : Outcome} {message : AlertMessage} (hkind : kind = .alert)
      (hcompleted : outcome.status = .completed)
      (hsubject : outcome.output.field? "subject" = some (.str message.subject))
      (hbody : outcome.output.field? "body" = some (.str message.body))
      (hrecipients : outcome.output.field? "recipients" = some (.ofStrings message.recipients)) :
      Delivers kind outcome [message]

variable (services : Services σ) (run : Run)

theorem sendAlert_delivers (key : String) (cooldown : Cooldown) (message : AlertMessage)
    (template : Json) (context : Context) :
    Action.Writes (σ := Recorder × σ)
      (sendAlert (fun message template => Services.onRecorder (Recorder.deliver message template)) key
        cooldown message template context)
      (.list (Recorder.sent ·.outside)) (Delivers .alert) := by
  unfold sendAlert
  refine .after (Action.silent_of_eq fun _ => rfl) fun claimed => ?_
  cases claimed with
  | false => exact .pure (.nothing nofun)
  | true =>
    have hdeliver : Action.Writes (σ := Recorder × σ)
        (Action.outside (Services.onRecorder (Recorder.deliver message template)))
        (.list (Recorder.sent ·.outside)) (Outbox.Kept message) :=
      fun world => world.outside.1.outbox.deliver_sent message
    refine hdeliver.before (fun answer => ?_) ?_
    · cases answer with
      | error error => exact .bind (Action.silent_of_eq fun _ => rfl) fun _ => .pure
      | ok receipt => exact .pure
    · intro answer added hkept world
      cases hkept with
      | refused => exact .nothing nofun
      | delivered =>
        refine .message rfl rfl ?_ ?_ ?_
        all_goals exact (Json.field?_object _ _).trans rfl

/-- Only alerts deliver messages. -/
theorem execute_delivers (node : Node) (kind : NodeKind) (context : Context) :
    (node.execute services.recording run kind context).Writes (.list (Recorder.sent ·.outside))
      (Delivers kind) := by
  refine execute_writes (Action.silent_of_eq fun _ => rfl)
    (fun _ _ _ _ _ => Action.silent_of_eq fun _ => rfl) ?_ ?_ ?_
  · rintro query hquery settings context
    obtain ⟨query, -, rfl⟩ := Option.map_eq_some_iff.mp hquery
    exact Action.silent_of_eq fun _ => rfl
  · refine fun outcome hunsent => .nothing fun halert => ?_
    cases hunsent halert <;> nofun
  · rintro rfl deliver ⟨⟩ message template
    exact sendAlert_delivers _ _ _ _ _

end Node

/-! ## Runs -/

theorem forall₂_mapIdx {γ : Type} {property : γ → β → Prop} {items : List α} {results : List β}
    (f : Nat → α → γ)
    (h : List.Forall₂ (fun item result => ∀ i, property (f i item) result) items results) :
    List.Forall₂ property (items.mapIdx f) results := by
  induction items generalizing f results with
  | nil =>
    cases h
    exact .nil
  | cons item rest ih =>
    cases h with
    | cons hfirst hrest =>
      rw [List.mapIdx_cons]
      exact .cons (hfirst 0) (ih _ (hrest.imp fun _ _ hitem i => hitem (i + 1)))

variable {services : Services σ} {run : Run}

/-- The step of a visit that shows nothing of a command logs none. -/
theorem Visit.audits_of_failed {visit : Visit}
    (hshows : visit.kind? = some .command → visit.status = .failed ∧ visit.output = .object [])
    (correlation : CorrelationId) (position : Nat) :
    ¬ (Execution.stepOf run correlation position visit).LogsCommand ∧
      (Execution.stepOf run correlation position visit).IdWhereTaken := by
  have hnone (hkind : visit.kind? = some .command) (name : String) :
      visit.output.field? name = none := by
    rw [(hshows hkind).2]
    rfl
  constructor
  · rintro ⟨hkind, hid⟩
    have hid' : (visit.output.field? "command_log_id").isSome := hid
    rw [hnone hkind] at hid'
    cases hid'
  · intro hkind
    show (visit.output.field? "command_log_id").isSome ↔ visit.status = .completed ∨
      visit.status = .failed ∧ visit.output.field? "command_status" = some (.str "failed")
    rw [hnone hkind, hnone hkind, (hshows hkind).1]
    simp

/-- The step of a visit whose command was taken tells of its log. -/
theorem Visit.HandsOver.tellsOf {graph : Graph} {visit : Visit} {target : CommandTarget}
    {payload : Object} {log : CommandLog}
    (h : visit.HandsOver services.catalog run graph.index target payload (.ok log))
    (hcatalog : services.catalog.Keyed) (hdevice : log.device = target.device.id)
    (htopic : log.topic = target.topic.id) (hpayload : log.payload = payload)
    (correlation : CorrelationId) (position : Nat) :
    (Execution.stepOf run correlation position visit).TellsOf graph log := by
  obtain ⟨context, -, houtput⟩ := h.ends
  obtain ⟨hid, hname⟩ := Node.output_commandOutcome target log context
  obtain ⟨node, hnode, -, hresolves⟩ := h.resolves
  obtain ⟨device, topic, hids, hresolved⟩ := hresolves.target_eq
  obtain ⟨hfound, -, hfound', -⟩ := Catalog.resolveCommandTarget_eq_ok.mp hresolved
  rw [← Node.answerOutcome, ← houtput] at hid hname
  refine ⟨hid, hname, node, hnode, ?_, ?_⟩
  · rw [hids, hdevice, htopic, hcatalog.device_id hfound, hcatalog.topic_id hfound']
  · rw [hresolves.payload_eq, hpayload]

theorem Visit.HandsOver.idWhereTaken {index : GraphIndex} {visit : Visit} {target : CommandTarget}
    {payload : Object} {log : CommandLog}
    (h : visit.HandsOver services.catalog run index target payload (.ok log))
    (correlation : CorrelationId) (position : Nat) :
    (Execution.stepOf run correlation position visit).IdWhereTaken := by
  obtain ⟨context, hstatus, houtput⟩ := h.ends
  obtain ⟨hid, hname⟩ := Node.output_commandOutcome target log context
  rw [← Node.answerOutcome, ← houtput] at hid hname
  have hstatus' : visit.status = if log.status = .failed then .failed else .completed :=
    hstatus.trans (Node.status_commandOutcome target log context)
  intro _
  show (visit.output.field? "command_log_id").isSome ↔ visit.status = .completed ∨
    visit.status = .failed ∧ visit.output.field? "command_status" = some (.str "failed")
  rw [hid, hname, hstatus']
  by_cases hfailed : log.status = .failed
  · simp [hfailed, CommandStatus.name]
  · simp [hfailed]

/-- What a visit adds to the logs is told by its step. -/
theorem Visit.Adds.audits {graph : Graph} {visit : Visit} {added : List CommandLog}
    (h : visit.Adds services.catalog run CommandDesk.Logged graph.index added)
    (hcatalog : services.catalog.Keyed) (correlation : CorrelationId) (position : Nat) :
    OneIf (Execution.stepOf run correlation position visit).LogsCommand
        ((Execution.stepOf run correlation position visit).TellsOf graph) added ∧
      (Execution.stepOf run correlation position visit).IdWhereTaken := by
  cases h with
  | nothing hshows =>
    exact (Visit.audits_of_failed hshows correlation position).imp_left .none
  | command hhands hlogged =>
    cases hlogged with
    | refused =>
      obtain ⟨context, hends⟩ := hhands.ends
      exact (Visit.audits_of_failed (fun _ => hends) correlation position).imp_left .none
    | taken hdevice htopic hpayload =>
      have htells := hhands.tellsOf hcatalog hdevice htopic hpayload correlation position
      have hlogs : (Execution.stepOf run correlation position visit).LogsCommand :=
        ⟨hhands.kind?_eq, by rw [htells.id_eq]; rfl⟩
      exact ⟨.one hlogs htells, hhands.idWhereTaken correlation position⟩

/-- What a moment adds to the alerts is told by its step. -/
theorem Walk.Happens.audits {index : GraphIndex} {trigger : Json} {values : Object}
    {path : List Visit} {moment : Moment (Recorder × σ)}
    (h : Happens services.recording run index trigger values path moment) :
    ∃ added, Recorder.sent moment.after.outside = Recorder.sent moment.before.outside ++ added ∧
      ∀ correlation position,
        OneIf (Execution.stepOf run correlation position moment.visit).SendsAlert
          (Execution.stepOf run correlation position moment.visit).Shows added := by
  obtain ⟨node, outcome, opened, closed, added, -, hacts, hadded, hdelivers⟩ :=
    h.writes fun node kind => node.execute_delivers services run kind _
  have hrecords := hacts.records
  refine ⟨added, hacts.accounts (Action.silent_of_eq fun _ => rfl) hadded,
    fun correlation position => ?_⟩
  have hsilent (hstatus : moment.visit.kind? = some .alert → outcome.status ≠ .completed) :
      OneIf (Execution.stepOf run correlation position moment.visit).SendsAlert
        (Execution.stepOf run correlation position moment.visit).Shows [] := by
    have hsends : ¬ (Execution.stepOf run correlation position moment.visit).SendsAlert := by
      rintro ⟨hkind, hcompleted⟩
      exact hstatus hkind (hrecords.status_eq.symm.trans hcompleted)
    exact .none hsends
  rcases hdelivers with ⟨rfl, rfl⟩ | ⟨kind, hkind, -, hdelivers⟩
  · exact hsilent fun _ => nofun
  · have hkind' : moment.visit.kind? = some kind := hrecords.kind?_eq.trans hkind
    cases hdelivers with
    | nothing hstatus => exact hsilent fun halert => hstatus (Option.some.inj (hkind'.symm.trans halert))
    | message halert hcompleted hsubject hbody hrecipients =>
      subst halert
      rw [← hrecords.output_eq] at hsubject hbody hrecipients
      have hsends : (Execution.stepOf run correlation position moment.visit).SendsAlert :=
        ⟨hkind', hrecords.status_eq.trans hcompleted⟩
      exact .one hsends ⟨hsubject, hbody, hrecipients⟩

namespace Execution

variable {version : WorkflowVersion} {record : TelemetryRecord} {correlation : CorrelationId}
  {result : ExecutionResult} {graph : Graph} {triggers : List TriggerMatch}

/-- What is known of the moments of a run by their steps is known of the steps. -/
theorem Tells.forall₂_steps {first last : World σ} {branches : List (Branch σ)}
    (h : Tells services run version record correlation first result last graph triggers branches)
    {property : RunStep → β → Prop} {items : List β}
    (hmoments : List.Forall₂ (fun (moment : Moment σ) item =>
      ∀ position, property (stepOf run correlation position moment.visit) item)
      (branches.flatMap Branch.moments) items) :
    List.Forall₂ property result.steps items := by
  rw [h.steps_eq]
  apply forall₂_mapIdx
  rw [List.forall₂_map_left_iff]
  exact hmoments

variable (graph result) in
/-- The steps of a run are an audit of what the recorder has kept of it. The commands are those of the steps
that show the id of a log, the messages those of the alerts that are completed. The steps stand for moments
of the run, and at no other ones anything is added. -/
structure Audits (run : Run) (correlation : CorrelationId) (first last : World (Recorder × σ))
    (commands : List CommandLog) (messages : List AlertMessage) : Prop where
  commands_told : List.Forall₂ (RunStep.TellsOf graph) (result.steps.filter (·.LogsCommand)) commands
  messages_shown : List.Forall₂ RunStep.Shows (result.steps.filter (·.SendsAlert)) messages
  idWhereTaken : ∀ step ∈ result.steps, step.IdWhereTaken
  silent : ∃ moments, Trail first moments last ∧
    List.Forall₂ (fun (step : RunStep) (moment : Moment (Recorder × σ)) =>
      (∃ position, step = stepOf run correlation position moment.visit) ∧
      (¬ step.LogsCommand → Recorder.logs moment.after.outside = Recorder.logs moment.before.outside) ∧
      (¬ step.SendsAlert → Recorder.sent moment.after.outside = Recorder.sent moment.before.outside))
      result.steps moments

variable {first last : World (Recorder × σ)} {branches : List (Branch (Recorder × σ))}

/-- What is added to the logs at a moment is told by the step of its visit. -/
theorem Tells.logs_of_mem
    (h : Tells services.recording run version record correlation first result last graph triggers
      branches) (hcatalog : services.catalog.Keyed) {moment : Moment (Recorder × σ)}
    (hmoment : moment ∈ branches.flatMap Branch.moments) :
    ∃ added, Recorder.logs moment.after.outside = Recorder.logs moment.before.outside ++ added ∧
      ∀ position,
        OneIf (stepOf run correlation position moment.visit).LogsCommand
          ((stepOf run correlation position moment.visit).TellsOf graph) added ∧
        (stepOf run correlation position moment.visit).IdWhereTaken := by
  obtain ⟨added, hadded, hadds, -⟩ := services.recording_lists.of_mem h hmoment
  exact ⟨added, hadded, hadds.audits hcatalog correlation⟩

/-- What is added to the alerts at a moment is told by the step of its visit. -/
theorem Tells.sent_of_mem
    (h : Tells services.recording run version record correlation first result last graph triggers
      branches) {moment : Moment (Recorder × σ)} (hmoment : moment ∈ branches.flatMap Branch.moments) :
    ∃ added, Recorder.sent moment.after.outside = Recorder.sent moment.before.outside ++ added ∧
      ∀ position, OneIf (stepOf run correlation position moment.visit).SendsAlert
        (stepOf run correlation position moment.visit).Shows added := by
  obtain ⟨trigger, htrigger, branch, -, htold, rfl | ⟨path, -, hhappens⟩⟩ := h.exists_of_mem hmoment
  · -- a trigger is no alert
    have hsends (position : Nat) :
        ¬ (stepOf run correlation position branch.started.visit).SendsAlert := by
      rintro ⟨halert, -⟩
      have hkind := (h.kind?_started htrigger htold).symm.trans halert
      cases hkind
    refine ⟨[], ?_, fun position => .none (hsends position)⟩
    exact htold.started_silent (.list (Recorder.sent ·.outside)) (Action.silent_of_eq fun _ => rfl)
  · obtain ⟨added, hadded, haudits⟩ := hhappens.audits
    exact ⟨added, hadded, haudits correlation⟩

theorem Tells.audits
    (h : Tells services.recording run version record correlation first result last graph triggers
      branches) (hcatalog : services.catalog.Keyed) :
    ∃ commands messages,
      Recorder.logs last.outside = Recorder.logs first.outside ++ commands ∧
      Recorder.sent last.outside = Recorder.sent first.outside ++ messages ∧
      Audits result graph run correlation first last commands messages := by
  obtain ⟨commands, hlogs, hcommands⟩ :=
    h.trail.accounts (.list (Recorder.logs ·.outside)) fun moment hmoment =>
      h.logs_of_mem hcatalog hmoment
  obtain ⟨messages, hsent, hmessages⟩ :=
    h.trail.accounts (.list (Recorder.sent ·.outside)) fun moment hmoment => h.sent_of_mem hmoment
  refine ⟨commands.flatten, messages.flatten, hlogs, hsent, ?_, ?_, ?_, ?_⟩
  · exact forall₂_filter_of_oneIf (h.forall₂_steps (hcommands.imp fun _ _ hmoment position =>
      (hmoment position).1))
  · exact forall₂_filter_of_oneIf (h.forall₂_steps hmessages)
  · intro step hstep
    rw [h.steps_eq, List.mem_mapIdx] at hstep
    obtain ⟨position, hposition, rfl⟩ := hstep
    rw [List.getElem_map]
    obtain ⟨added, -, haudits⟩ := h.logs_of_mem hcatalog (List.getElem_mem _)
    exact (haudits position).2
  · refine ⟨_, h.trail, h.forall₂_steps (List.forall₂_same.mpr fun moment hmoment position => ?_)⟩
    obtain ⟨added, hadded, haudits⟩ := h.logs_of_mem hcatalog hmoment
    obtain ⟨added', hadded', haudits'⟩ := h.sent_of_mem hmoment
    refine ⟨⟨position, rfl⟩, fun hsilent => ?_, fun hsilent => ?_⟩
    · rw [hadded, (haudits position).1.eq_nil hsilent, List.append_nil]
    · rw [hadded', (haudits' position).eq_nil hsilent, List.append_nil]

/-- **The steps of a run are an audit of what was sent.** With a recorder, the commands that a run adds to
the logs are those of its steps that show the id of a log, one for each and in the same order, to the target
and with the payload in the settings of the node. The alerts that it delivers are those of its completed
alerts. A run that cannot start adds nothing. -/
theorem execute_audits (services : Services σ) (hcatalog : services.catalog.Keyed) (run : Run)
    (version : WorkflowVersion) (record : TelemetryRecord) (correlation : CorrelationId)
    (first : World (Recorder × σ)) :
    ∃ answer last commands messages,
      execute services.recording run version record correlation first = (answer, last) ∧
      Recorder.logs last.outside = Recorder.logs first.outside ++ commands ∧
      Recorder.sent last.outside = Recorder.sent first.outside ++ messages ∧
      match answer with
      | .ok result => ∃ graph, version.readGraph = .ok graph ∧
          Audits result graph run correlation first last commands messages
      | .error _ => commands = [] ∧ messages = [] := by
  rcases execute_tells services.recording run version record correlation first with
    ⟨error, heq⟩ | ⟨result, last, graph, triggers, branches, heq, htells⟩
  · exact ⟨.error error, first, [], [], heq, (List.append_nil _).symm, (List.append_nil _).symm, rfl, rfl⟩
  · obtain ⟨commands, messages, hlogs, hsent, haudits⟩ := htells.audits hcatalog
    exact ⟨.ok result, last, commands, messages, heq, hlogs, hsent, graph, htells.readGraph_eq, haudits⟩

end Execution

/-! ## An order and a mail -/

namespace Sample

/-- A trigger in front of a command to the meter, with an alert behind it. -/
def orderAndMail : Graph :=
  .new [listener,
      .new "order" "command" (.object [
        ("target", .object [("device_id", .ofInt64 1), ("topic_id", .ofInt64 2)]),
        ("payload", .object [("on", .bool true)])]),
      .new "mail" "alert" (.object [
        ("channel", .str "email"), ("recipients", .arr [.str "staff@site.org"]),
        ("subject", .str "Power"), ("body", .str "The power is on.")])]
    [.new "first" "meter" "order", .new "second" "order" "mail"]

/-- The world with an empty recorder beside it. -/
def recordedWorld : World (Recorder × Recorder) := ⟨.still 0, .empty, .empty, .empty⟩

/-- The targets of the commands and the subjects of the alerts that a recorder has kept. -/
def targetsAndSubjects (recorder : Recorder) : List (Key .device × Key .topic) × List String :=
  (recorder.desk.logs.map fun log => (log.device, log.topic), recorder.outbox.sent.map (·.subject))

end Sample

namespace Execution

theorem execute_orderAndMail :
    Sample.services.catalog.Keyed ∧
      (∃ answer last commands messages,
        execute Sample.services.recording Sample.run (Sample.versionOf Sample.orderAndMail) Sample.record
          ⟨0⟩ Sample.recordedWorld = (answer, last) ∧
        Recorder.logs last.outside = Recorder.logs Sample.recordedWorld.outside ++ commands ∧
        Recorder.sent last.outside = Recorder.sent Sample.recordedWorld.outside ++ messages ∧
        match answer with
        | .ok result => ∃ graph, (Sample.versionOf Sample.orderAndMail).readGraph = .ok graph ∧
            Audits result graph Sample.run ⟨0⟩ Sample.recordedWorld last commands messages
        | .error _ => commands = [] ∧ messages = []) ∧
      Sample.targetsAndSubjects (execute Sample.services.recording Sample.run
          (Sample.versionOf Sample.orderAndMail) Sample.record ⟨0⟩ Sample.recordedWorld).2.outside.1 =
        ([(⟨1⟩, ⟨2⟩)], ["Power"]) := by
  have hcatalog : Sample.services.catalog.Keyed :=
    (Inventory.orderly_ofSnapshot ⟨[Sample.meter], [Sample.readings, Sample.orders],
      [Sample.power]⟩).faithful.keyed
  refine ⟨hcatalog, ?_, ?_⟩
  · exact execute_audits Sample.services hcatalog Sample.run (Sample.versionOf Sample.orderAndMail)
      Sample.record ⟨0⟩ Sample.recordedWorld
  · decide +kernel

end Execution

end TelemetryAutomation
