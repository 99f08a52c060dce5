import TelemetryAutomation.Proofs.Alert.Resolving
import TelemetryAutomation.Proofs.Graph.Settings
import TelemetryAutomation.Proofs.Run.Audit
import TelemetryAutomation.Proofs.Run.Extension

/-!
# Alerts that leave a run

Whatever the settings of its nodes, a run hands over only messages that are fit to be sent: on the channel for
mail, with a subject and a body, and to addresses in normal form. Services can be made to keep every message
that they are handed, also where they fail to deliver it, and a run does not take notice of that.

* `AlertMessage.IsWellFormed`: what is promised of a message
* `Node.runAlert_of_isFirstInvalid`: an alert with a recipient that is no address fails and does nothing else
* `Execution.execute_posts`: **all messages of all runs are well formed**
-/

namespace TelemetryAutomation

variable {σ : Type}

open Recipient (IsFirstInvalid IsNormal isAddress normalize resolve textsOf)

/-! ## Messages -/

/-- A message that is fit to be sent for some settings. Its recipients are the normal forms of those in the
settings that are texts and not blank, each where it comes up first. -/
structure AlertMessage.IsWellFormed (settings : Object) (message : AlertMessage) : Prop where
  channel_eq : message.channel = "email"
  subject_ne : message.subject ≠ ""
  subject_trimmed : Text.IsTrimmed message.subject.toList
  body_ne : message.body ≠ ""
  body_trimmed : Text.IsTrimmed message.body.toList
  recipients_ne : message.recipients ≠ []
  recipients_nodup : message.recipients.Nodup
  recipients_eq : message.recipients =
    ((textsOf (settings.get? "recipients")).map normalize).eraseDups
  recipients_normal : ∀ address ∈ message.recipients, IsNormal address

/-- Settings with the channel for mail and with templates of a subject and a body. -/
structure Alert.IsComplete (settings : Object) : Prop where
  channel_eq : settings.get? "channel" = some (.str "email")
  subject : ∃ subject, settings.get? "subject" = some (.str subject)
  body : ∃ body, settings.get? "body" = some (.str body)

/-- What a step shows if an entry among the recipients is no address. -/
def InvalidRecipient.stepError (entry : String) : Json :=
  .object [("reason", .str "alert_recipients_invalid"),
    ("message", .str ("Invalid alert recipient [" ++ entry ++ "]."))]

theorem InvalidRecipient.toJson_recipientInvalid (entry : String) :
    toJson (StepFault.recipientInvalid ⟨entry⟩) = stepError entry := rfl

/-! ## Alerts -/

namespace Node

theorem isWellFormed_renderMessage {settings : Object} {subject body : String}
    {recipients : List String} {template : Json}
    (hresolved : resolve (settings.get? "recipients") = .ok recipients) (hsome : recipients ≠ [])
    (hsubject : (renderMessage subject body recipients template).subject ≠ "")
    (hbody : (renderMessage subject body recipients template).body ≠ "") :
    (renderMessage subject body recipients template).IsWellFormed settings where
  channel_eq := rfl
  subject_ne := hsubject
  subject_trimmed := Text.isTrimmed_trimmed _
  body_ne := hbody
  body_trimmed := Text.isTrimmed_trimmed _
  recipients_ne := hsome
  recipients_nodup := Recipient.nodup_of_resolve hresolved
  recipients_eq := (Recipient.resolve_eq_ok_iff.mp hresolved).2
  recipients_normal := fun _ => Recipient.isNormal_of_mem_resolved hresolved

variable (services : Services σ) (deliver : AlertMessage → Json → σ → Except AlertError Json × σ)
  (run : Run) (node : Node) (context : Context)

/-- An alert ends at once, or it sends a message that is well formed for its settings. -/
theorem runAlert_ends_or_sends :
    (∃ outcome, runAlert services deliver run node context = pure outcome) ∨
      ∃ settings key cooldown message template, node.settings? = some settings ∧
        message.IsWellFormed settings ∧
        runAlert services deliver run node context =
          sendAlert deliver key cooldown message template context := by
  unfold runAlert
  split
  · exact .inl ⟨_, rfl⟩
  · next settings hsettings =>
    obtain ⟨hsettings, -⟩ := Option.filter_eq_some_iff.mp hsettings
    split
    · exact .inl ⟨_, rfl⟩
    · split
      · exact .inl ⟨_, rfl⟩
      · exact .inl ⟨_, rfl⟩
      · exact .inl ⟨_, rfl⟩
      · next subject body recipients hsome htexts hresolved =>
        dsimp only
        split
        · exact .inl ⟨_, rfl⟩
        · next hfilled =>
          rw [Bool.or_eq_true, not_or, String.isEmpty_iff, String.isEmpty_iff] at hfilled
          exact .inr ⟨settings, _, _, _, _, hsettings,
            isWellFormed_renderMessage hresolved hsome hfilled.1 hfilled.2, rfl⟩

variable {node}

/-- Whatever the world, an alert with its texts and a recipient that is no address fails, names the first such
recipient and does nothing else. -/
theorem runAlert_of_isFirstInvalid {settings : Object} {entry : String}
    (hsettings : node.settings? = some settings) (hcomplete : Alert.IsComplete settings)
    (hentry : IsFirstInvalid (settings.get? "recipients") entry) :
    runAlert services deliver run node context = pure (.failed (.recipientInvalid ⟨entry⟩)) := by
  obtain ⟨hchannel, ⟨subject, hsubject⟩, body, hbody⟩ := hcomplete
  have hfilled : settings.isEmpty = false := by
    rw [← Bool.not_eq_true, SortedMap.isEmpty_iff]
    rintro rfl
    cases hchannel
  have hdelivering : Alert.isDelivering settings = true := by
    rw [Alert.isDelivering, List.any_eq_true]
    refine ⟨"channel", by decide, ?_⟩
    rw [SortedMap.contains, hchannel]
    rfl
  have htexts : alertTexts? settings = some (subject, body) := by
    have hmail : settings.text? "channel" = some Alert.mailChannel := Object.text?_eq_some_iff.mpr hchannel
    rw [alertTexts?, if_pos hmail, Object.text?_eq_some_iff.mpr hsubject,
      Object.text?_eq_some_iff.mpr hbody]
    rfl
  simp [runAlert, hsettings, Option.filter_some, hfilled, hdelivering, htexts,
    Recipient.resolve_of_isFirstInvalid hentry]

end Node

/-! ## Services that keep messages -/

namespace Services

/-- Acts on the outside world and leaves the messages beside it as they are. -/
def besideMessages {α : Type} (act : σ → α × σ) :
    σ × List AlertMessage → α × (σ × List AlertMessage) :=
  fun (outside, messages) =>
    let (result, outside) := act outside
    (result, outside, messages)

/-- Keeps a message and delivers it. -/
def keepMessage (deliver : AlertMessage → Json → σ → Except AlertError Json × σ)
    (message : AlertMessage) (template : Json) :
    σ × List AlertMessage → Except AlertError Json × (σ × List AlertMessage) :=
  fun (outside, messages) =>
    let (result, outside) := deliver message template outside
    (result, outside, messages ++ [message])

/-- The same services, which keep all messages that they are handed. -/
def posting (services : Services σ) : Services (σ × List AlertMessage) where
  catalog := services.catalog
  evaluate := services.evaluate
  dispatch device topic payload user time :=
    besideMessages (services.dispatch device topic payload user time)
  query := services.query.map fun query => {
    check := query.check
    execute := fun run settings context => besideMessages (query.execute run settings context) }
  deliver := services.deliver.map keepMessage
  defaultCooldown := services.defaultCooldown
  maxDepth := services.maxDepth

theorem posting_extends (services : Services σ) : services.posting.Extends services Prod.fst where
  catalog_eq := rfl
  evaluate_eq := rfl
  dispatch _ _ _ _ _ _ := rfl
  query := by
    rw [posting]
    cases services.query with
    | none => exact .none
    | some query => exact .some fun _ _ _ _ => rfl
  deliver := by
    rw [posting]
    cases services.deliver with
    | none => exact .none
    | some deliver => exact .some fun _ _ _ => rfl
  defaultCooldown_eq := rfl
  maxDepth_eq := rfl

end Services

/-- A world with messages that have been kept. -/
def World.withMessages (world : World σ) (messages : List AlertMessage) :
    World (σ × List AlertMessage) :=
  ⟨world.clock, world.cooldowns, world.outside, messages⟩

/-- The messages that are kept of a change of the world. -/
def Ledger.messages : Ledger (σ × List AlertMessage) AlertMessage := .list (·.outside.2)

/-! ## What nodes post -/

/-- A node posts nothing, or it is an alert and posts a message that is well formed for its settings. -/
inductive Node.Posts (node : Node) (kind : NodeKind) : List AlertMessage → Prop
  | nothing : Posts node kind []
  | message {settings : Object} {message : AlertMessage} (hkind : kind = .alert)
      (hsettings : node.settings? = some settings) (hmessage : message.IsWellFormed settings) :
      Posts node kind [message]

/-- An alert with its texts and a recipient that is no address posts nothing and names the first one. -/
def Node.Refuses (node : Node) (kind : NodeKind) (outcome : Outcome) (posted : List AlertMessage) : Prop :=
  ∀ settings entry, kind = .alert → node.settings? = some settings → Alert.IsComplete settings →
    IsFirstInvalid (settings.get? "recipients") entry →
    posted = [] ∧ outcome = .failed (.recipientInvalid ⟨entry⟩)

namespace Node

variable (services : Services σ) (run : Run)

theorem sendAlert_writes (deliver : AlertMessage → Json → σ → Except AlertError Json × σ) (key : String)
    (cooldown : Cooldown) (message : AlertMessage) (template : Json) (context : Context) :
    (sendAlert (Services.keepMessage deliver) key cooldown message template context).Writes
      Ledger.messages fun _ posted => posted = [] ∨ posted = [message] := by
  unfold sendAlert
  refine .after (Action.silent_of_eq fun _ => rfl) fun claimed => ?_
  cases claimed with
  | false => exact .pure (.inl rfl)
  | true =>
    have hdeliver : (Action.outside (Services.keepMessage deliver message template)).Writes
        Ledger.messages fun _ posted => posted = [message] :=
      fun world => ⟨[message], rfl, rfl⟩
    refine hdeliver.before (fun answer => ?_) fun answer posted hposted world => .inr hposted
    cases answer with
    | error error => exact .bind (Action.silent_of_eq fun _ => rfl) fun _ => .pure
    | ok receipt => exact .pure

theorem runAlert_writes_posts (deliver : AlertMessage → Json → σ → Except AlertError Json × σ)
    (node : Node) (context : Context) :
    (runAlert services.posting (Services.keepMessage deliver) run node context).Writes Ledger.messages
      fun outcome posted => node.Posts .alert posted ∧ node.Refuses .alert outcome posted := by
  by_cases hinvalid : ∃ settings entry, node.settings? = some settings ∧ Alert.IsComplete settings ∧
      IsFirstInvalid (settings.get? "recipients") entry
  · obtain ⟨settings, entry, hsettings, hcomplete, hentry⟩ := hinvalid
    rw [runAlert_of_isFirstInvalid _ _ run context hsettings hcomplete hentry]
    refine .pure ⟨.nothing, ?_⟩
    intro settings' entry' _ hsettings' _ hentry'
    -- there is only one first entry
    obtain rfl := Option.some.inj (hsettings.symm.trans hsettings')
    have hsame := Recipient.resolve_of_isFirstInvalid hentry
    rw [Recipient.resolve_of_isFirstInvalid hentry', Except.error.injEq] at hsame
    rw [hsame]
    exact ⟨rfl, rfl⟩
  · have hrefuses (outcome : Outcome) (posted : List AlertMessage) :
        node.Refuses .alert outcome posted := by
      intro settings entry _ hsettings hcomplete hentry
      exact absurd ⟨settings, entry, hsettings, hcomplete, hentry⟩ hinvalid
    rcases runAlert_ends_or_sends services.posting (Services.keepMessage deliver) run node context with
      ⟨outcome, hends⟩ | ⟨settings, key, cooldown, message, template, hsettings, hmessage, hsends⟩
    · rw [hends]
      exact .pure ⟨.nothing, hrefuses _ _⟩
    · rw [hsends]
      refine (sendAlert_writes deliver key cooldown message template context).mono ?_
      rintro outcome posted (rfl | rfl)
      · exact ⟨.nothing, hrefuses _ _⟩
      · exact ⟨.message rfl hsettings hmessage, hrefuses _ _⟩

/-- Only alerts post messages. -/
theorem execute_writes_nil (node : Node) {kind : NodeKind} (hkind : kind ≠ .alert) (context : Context) :
    (node.execute services.posting run kind context).Writes Ledger.messages
      fun _ posted => posted = [] := by
  refine execute_writes (Action.silent_of_eq fun _ => rfl)
    (fun _ _ _ _ _ => Action.silent_of_eq fun _ => rfl) ?_ (fun _ _ => rfl)
    fun halert => absurd halert hkind
  intro query hquery settings context
  obtain ⟨query, -, rfl⟩ := Option.map_eq_some_iff.mp hquery
  exact Action.silent_of_eq fun _ => rfl

theorem execute_writes_posts (node : Node) (kind : NodeKind) (context : Context) :
    (node.execute services.posting run kind context).Writes Ledger.messages fun outcome posted =>
      node.Posts kind posted ∧ (services.deliver.isSome → node.Refuses kind outcome posted) := by
  by_cases hkind : kind = .alert
  · subst hkind
    simp only [execute, Services.posting]
    cases hservice : services.deliver with
    | none => exact .pure ⟨.nothing, fun hservice => absurd hservice Bool.false_ne_true⟩
    | some deliver =>
      refine (runAlert_writes_posts services run deliver node context).mono ?_
      rintro outcome posted ⟨hposts, hrefuses⟩
      exact ⟨hposts, fun _ => hrefuses⟩
  · refine (execute_writes_nil services run node hkind context).mono ?_
    rintro outcome posted rfl
    exact ⟨.nothing, fun _ settings entry halert => absurd halert hkind⟩

end Node

/-! ## What runs post -/

namespace RunStep

variable (graph : Graph) (step : RunStep)

/-- What is posted at a step: nothing, or at an alert one message, which is well formed for the settings of
its node. -/
inductive Posts : List AlertMessage → Prop
  | nothing : Posts []
  | message {node : Node} {settings : Object} {message : AlertMessage} (hkind : step.kind? = some .alert)
      (hnode : graph.index.node? step.node = some node) (hsettings : node.settings? = some settings)
      (hmessage : message.IsWellFormed settings) : Posts [message]

/-- If an alert has its texts and a recipient that is no address, then nothing is posted and the step fails.
It names the first such recipient, unless the alert came up too deep to be executed at all. -/
def Refuses (posted : List AlertMessage) : Prop :=
  ∀ node settings, step.kind? = some .alert → graph.index.node? step.node = some node →
    node.settings? = some settings → Alert.IsComplete settings →
    (∃ entry ∈ textsOf (settings.get? "recipients"), ¬ isAddress (normalize entry)) →
    posted = [] ∧ step.status = .failed ∧
      ((∃ entry, IsFirstInvalid (settings.get? "recipients") entry ∧
        step.error = some (InvalidRecipient.stepError entry)) ∨
      step.error = some (toJson StepFault.depthExceeded))

end RunStep

variable {services : Services σ} {run : Run}

/-- What happens at the end of a path posts what its step says. -/
theorem Walk.Happens.posts {graph : Graph} {trigger : Json} {values : Object} {path : List Visit}
    {moment : Moment (σ × List AlertMessage)}
    (h : Happens services.posting run graph.index trigger values path moment) :
    ∃ posted, Ledger.messages.Accounts moment.before posted moment.after ∧
      ∀ correlation position,
        (Execution.stepOf run correlation position moment.visit).Posts graph posted ∧
        (services.deliver.isSome →
          (Execution.stepOf run correlation position moment.visit).Refuses graph posted) := by
  obtain ⟨node, outcome, opened, closed, posted, hfound, hacts, haccounts, hdone⟩ :=
    h.writes fun node kind => node.execute_writes_posts services run kind _
  have hrecords := hacts.records
  refine ⟨posted, hacts.accounts (Action.silent_of_eq fun _ => rfl) haccounts, ?_⟩
  intro correlation position
  rcases hdone with ⟨rfl, rfl⟩ | ⟨kind, hkind, -, hposts, hrefuses⟩
  · refine ⟨.nothing, fun _ => ?_⟩
    intro _ _ _ _ _ _ _
    exact ⟨rfl, hrecords.status_eq, .inr hrecords.error_eq⟩
  · have hkind' : (Execution.stepOf run correlation position moment.visit).kind? = some kind :=
      hrecords.kind?_eq.trans hkind
    constructor
    · cases hposts with
      | nothing => exact .nothing
      | message halert hsettings hmessage => exact .message (halert ▸ hkind') hfound hsettings hmessage
    · intro hservice node' settings halert hnode hsettings hcomplete hinvalid
      obtain rfl : node = node' := Option.some.inj (hfound.symm.trans hnode)
      obtain rfl : kind = .alert := Option.some.inj (hkind'.symm.trans halert)
      obtain ⟨entry, hentry⟩ := Recipient.exists_isFirstInvalid hinvalid
      obtain ⟨rfl, rfl⟩ := hrefuses hservice settings entry rfl hsettings hcomplete hentry
      have herror := InvalidRecipient.toJson_recipientInvalid entry
      exact ⟨rfl, hrecords.status_eq, .inl ⟨entry, hentry, hrecords.error_eq.trans (congrArg some herror)⟩⟩

namespace Execution

variable {version : WorkflowVersion} {record : TelemetryRecord} {correlation : CorrelationId}
  {first last : World (σ × List AlertMessage)} {result : ExecutionResult} {graph : Graph}
  {triggers : List TriggerMatch} {branches : List (Branch (σ × List AlertMessage))}

theorem Tells.posts_of_mem
    (h : Tells services.posting run version record correlation first result last graph triggers branches)
    {moment : Moment (σ × List AlertMessage)} (hmoment : moment ∈ branches.flatMap Branch.moments) :
    ∃ posted, Ledger.messages.Accounts moment.before posted moment.after ∧
      ∀ position, (stepOf run correlation position moment.visit).Posts graph posted ∧
        (services.deliver.isSome → (stepOf run correlation position moment.visit).Refuses graph posted) := by
  obtain ⟨trigger, htrigger, branch, -, htold, rfl | ⟨path, -, hhappens⟩⟩ := h.exists_of_mem hmoment
  · refine ⟨[], htold.started_silent _ (Action.silent_of_eq fun _ => rfl), fun position => ?_⟩
    refine ⟨.nothing, fun _ => ?_⟩
    -- a trigger is no alert
    intro node settings halert
    cases (h.kind?_started htrigger htold).symm.trans halert
  · obtain ⟨posted, haccounts, hposts⟩ := hhappens.posts
    exact ⟨posted, haccounts, hposts correlation⟩

/-- The messages of a run, step by step. -/
theorem Tells.posts
    (h : Tells services.posting run version record correlation first result last graph triggers branches) :
    ∃ posted : List (List AlertMessage), last.outside.2 = first.outside.2 ++ posted.flatten ∧
      List.Forall₂ (fun step messages => step.Posts graph messages ∧
        (services.deliver.isSome → step.Refuses graph messages)) result.steps posted := by
  obtain ⟨posted, haccounts, hmoments⟩ :=
    h.trail.accounts Ledger.messages fun moment hmoment => h.posts_of_mem hmoment
  exact ⟨posted, haccounts, h.forall₂_steps hmoments⟩

/-- **Every alert that leaves a run is well formed.** Services that keep all messages that they are handed do
the same as without that. Each message belongs to a step of an alert and is well formed for the settings of
its node, whatever graph, settings, context and cooldowns there are. Where there is a service for alerts, an
alert with its texts and a recipient that is no address fails with the first such recipient and leaves the
world as it is, so its step posts nothing. Resolving a resolved list of recipients changes nothing. -/
theorem execute_posts (services : Services σ) (run : Run) (version : WorkflowVersion)
    (record : TelemetryRecord) (correlation : CorrelationId) (world : World σ)
    (kept : List AlertMessage) :
    (∃ answer last posted,
      execute services run version record correlation world = (answer, last) ∧
      execute services.posting run version record correlation (world.withMessages kept) =
        (answer, last.withMessages (kept ++ List.flatten posted)) ∧
      match answer with
      | .ok result => ∃ graph, version.readGraph = .ok graph ∧
          List.Forall₂ (fun step messages => step.Posts graph messages ∧
            (services.deliver.isSome → step.Refuses graph messages)) result.steps posted
      | .error _ => posted = []) ∧
    (∀ (node : Node) (settings : Object) (context : Context) (world : World σ),
      services.deliver.isSome → node.settings? = some settings → Alert.IsComplete settings →
      (∃ entry ∈ textsOf (settings.get? "recipients"), ¬ isAddress (normalize entry)) →
      ∃ entry, IsFirstInvalid (settings.get? "recipients") entry ∧
        node.execute services run .alert context world =
          (.failed (.recipientInvalid ⟨entry⟩), world)) ∧
    ∀ recipients addresses, resolve recipients = .ok addresses →
      resolve (some (.ofStrings addresses)) = .ok addresses := by
  refine ⟨?_, ?_, fun recipients addresses => Recipient.resolve_resolved⟩
  · have hextends := execute_extends services.posting_extends run version record correlation
      (world.withMessages kept)
    rcases execute_tells services.posting run version record correlation (world.withMessages kept) with
      ⟨error, heq⟩ | ⟨result, last, graph, triggers, branches, heq, htells⟩
    · rw [heq] at hextends
      refine ⟨.error error, world, [], hextends, ?_, rfl⟩
      rw [heq, List.flatten_nil, List.append_nil]
    · rw [heq] at hextends
      obtain ⟨posted, hposted, hsteps⟩ := htells.posts
      refine ⟨.ok result, last.onPart Prod.fst, posted, hextends, ?_, graph, htells.readGraph_eq, hsteps⟩
      have hlast : last = (last.onPart Prod.fst).withMessages last.outside.2 := rfl
      have hkept : last.outside.2 = kept ++ posted.flatten := hposted
      rw [heq, ← hkept, ← hlast]
  · intro node settings context world hservice hsettings hcomplete hinvalid
    obtain ⟨entry, hentry⟩ := Recipient.exists_isFirstInvalid hinvalid
    obtain ⟨deliver, hdeliver⟩ := Option.isSome_iff_exists.mp hservice
    refine ⟨entry, hentry, ?_⟩
    simp only [Node.execute, hdeliver]
    rw [Node.runAlert_of_isFirstInvalid _ _ run context hsettings hcomplete hentry]
    rfl

end Execution

namespace Sample

/-- A trigger in front of an alert to one address, which is written in several ways. -/
def untidyMail : Graph :=
  .new [listener,
      .new "mail" "alert" (.object [
        ("channel", .str "email"),
        ("recipients", .ofStrings [" Staff@Site.org", "  ", "staff@site.org", "STAFF@SITE.ORG "]),
        ("subject", .str " Power "), ("body", .str "The power is on.\n")])]
    [.new "first" "meter" "mail"]

end Sample

example :
    (Execution.execute Sample.services.posting Sample.run (Sample.versionOf Sample.untidyMail)
      Sample.record ⟨0⟩ (Sample.world.withMessages [])).2.outside.2 =
      [⟨"email", ["staff@site.org"], "Power", "The power is on."⟩] := by
  decide +kernel

end TelemetryAutomation
