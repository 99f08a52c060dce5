import TelemetryAutomation.Proofs.Alert.Cooldowns
import TelemetryAutomation.Proofs.Run.Effects

/-!
# Cooldowns over several runs

Runs share one store. Each visit of an alert that asks for its key shows what became of it, and nothing else
in a run touches the store. So the requests of all runs follow one another, and they honour cooldowns
whatever the keys, the times and the answers of those who deliver.
-/

namespace TelemetryAutomation

variable {σ : Type}

/-! ## What shows a request -/

/-- An alert shows that it asked for its key: it is completed, or it was silenced, or it could not be
delivered. -/
def Alert.ShowsRequest (status : StepStatus) (output : Json) (error : Option Json) : Prop :=
  status = .completed ∨
    status = .skipped ∧ output.field? "reason" = some (.str "alert_cooldown_active") ∨
    status = .failed ∧ reasonOf? error = some "alert_dispatch_failed"

instance (status : StepStatus) (output : Json) (error : Option Json) :
    Decidable (Alert.ShowsRequest status output error) :=
  inferInstanceAs (Decidable (_ ∨ _))

/-- What became of a request, as an alert shows it. -/
inductive AlertRequest.ShownBy (request : AlertRequest) : StepStatus → Json → Option Json → Prop
  | delivered {output : Json} {error : Option Json} (hanswer : request.answer = .delivered)
      (hkey : output.field? "cooldown_key" = some (.str request.key))
      (hcooldown : output.field? "cooldown" = some (toJson request.cooldown)) :
      ShownBy request .completed output error
  | silenced {output : Json} {error : Option Json} (hanswer : request.answer = .silenced)
      (hreason : output.field? "reason" = some (.str "alert_cooldown_active"))
      (hkey : output.field? "cooldown_key" = some (.str request.key))
      (hcooldown : output.field? "cooldown" = some (toJson request.cooldown)) :
      ShownBy request .skipped output error
  | undelivered {output : Json} {error : Option Json} (hanswer : request.answer = .undelivered)
      (hreason : reasonOf? error = some "alert_dispatch_failed") :
      ShownBy request .failed output error

theorem AlertRequest.ShownBy.showsRequest {request : AlertRequest} {status : StepStatus} {output : Json}
    {error : Option Json} (h : request.ShownBy status output error) :
    Alert.ShowsRequest status output error := by
  cases h with
  | delivered => exact .inl rfl
  | silenced _ hreason => exact .inr (.inl ⟨rfl, hreason⟩)
  | undelivered _ hreason => exact .inr (.inr ⟨rfl, hreason⟩)

theorem AlertRequest.ShownBy.ne_failed {request : AlertRequest} {status : StepStatus} {output : Json}
    {error : Option Json} (h : request.ShownBy status output error)
    (hsilenced : request.answer = .silenced) : status ≠ .failed := by
  cases h with
  | delivered => nofun
  | silenced => nofun
  | undelivered hanswer =>
    rw [hanswer] at hsilenced
    cases hsilenced

/-- An alert that is settled by its settings shows no request. -/
theorem Node.Unsent.not_showsRequest {context : Context} {outcome : Outcome}
    (h : Unsent context outcome) :
    ¬ Alert.ShowsRequest outcome.status outcome.output outcome.error := by
  cases h with
  | skipped reason =>
    have hreason : (errorFor reason.name).field? "reason" = some (.str reason.name) := by
      rw [errorFor, Json.field?_object]
      rfl
    rintro (hstatus | ⟨-, hshown⟩ | ⟨hstatus, -⟩)
    · cases hstatus
    · have hname : some (Json.str reason.name) = some (.str "alert_cooldown_active") :=
        hreason.symm.trans hshown
      cases reason <;> simp [SkipReason.name] at hname
    · cases hstatus
  | failed fault hfault =>
    rintro (hstatus | ⟨hstatus, -⟩ | ⟨-, hshown⟩)
    · cases hstatus
    · cases hstatus
    · have hname : some fault.reason = some "alert_dispatch_failed" :=
        fault.reasonOf?_toJson.symm.trans hshown
      cases fault with
      | deliveryFailed error => exact hfault error rfl
      | _ => simp [StepFault.reason] at hname

/-! ## Nodes -/

/-- The requests that lead from one world to another. -/
def Ledger.requests : Ledger σ AlertRequest where
  Accounts first requests last :=
    Requests first.cooldowns first.clock.now requests last.cooldowns last.clock.now
  nil _ := .nil le_rfl
  append := .append

namespace Node

theorem now_silent : (Action.now (σ := σ)).Silent Ledger.requests :=
  fun world => .nil world.clock.le_read

theorem outside_silent {α : Type} (act : σ → α × σ) : (Action.outside act).Silent Ledger.requests :=
  fun _ => .nil le_rfl

/-- What a node writes of its request. Only alerts make requests. -/
inductive Asks (services : Services σ) (run : Run) (node : Node) (kind : NodeKind) (context : Context) :
    Outcome → List AlertRequest → Prop
  | nothing {outcome : Outcome} (h : kind = .alert → Unsent context outcome) :
      Asks services run node kind context outcome []
  | request {outcome : Outcome} {request : AlertRequest} (hkind : kind = .alert)
      (hkey : request.key = Alert.cooldownKey run.workflowVersion node.id context.trigger)
      (hcooldown : request.cooldown = node.cooldown services.defaultCooldown)
      (hshown : request.ShownBy outcome.status outcome.output outcome.error) :
      Asks services run node kind context outcome [request]

/-- An alert that is sent makes one request, and shows what became of it. -/
theorem sendAlert_asks (deliver : AlertMessage → Json → σ → Except AlertError Json × σ) (key : String)
    (cooldown : Cooldown) (message : AlertMessage) (template : Json) (context : Context) :
    (sendAlert deliver key cooldown message template context).Writes .requests fun outcome requests =>
      ∃ request : AlertRequest, requests = [request] ∧ request.key = key ∧
        request.cooldown = cooldown ∧
        request.ShownBy outcome.status outcome.output outcome.error := by
  intro world
  let ask (answer : AlertAnswer) : AlertRequest := ⟨key, cooldown, world.clock.read.1, answer⟩
  let given := world.cooldowns.acquire key (ask .delivered).nanos world.clock.read.1
  -- one reading of the clock, and what the request does to the store
  have hrequest {answer : AlertAnswer} {after : CooldownStore}
      (hgranted : given.1 = true ↔ answer ≠ .silenced)
      (hafter : after = if answer = .undelivered then given.2.release key else given.2) :
      Requests world.cooldowns world.clock.now [ask answer] after world.clock.read.2.now :=
    .cons world.clock.le_read ⟨hgranted, hafter⟩ (.nil le_rfl)
  have hacquire : Action.acquire key cooldown world =
      (given.1, ⟨world.clock.read.2, given.2, world.outside⟩) := rfl
  rw [sendAlert, Action.bind_apply, hacquire]
  cases hclaimed : given.1 with
  | false =>
    rw [hclaimed] at hrequest
    refine ⟨[ask .silenced], hrequest (by simp) rfl, ask .silenced, rfl, rfl, rfl, ?_⟩
    refine .silenced rfl ?_ ?_ ?_
    all_goals exact (Json.field?_object _ _).trans rfl
  | true =>
    rw [hclaimed] at hrequest
    rw [if_pos rfl, Action.bind_apply]
    have houtside : Action.outside (deliver message template)
        ⟨world.clock.read.2, given.2, world.outside⟩ =
      ((deliver message template world.outside).1,
        ⟨world.clock.read.2, given.2, (deliver message template world.outside).2⟩) := rfl
    rw [houtside]
    cases (deliver message template world.outside).1 with
    | error error =>
      refine ⟨[ask .undelivered], hrequest (by simp) rfl, ask .undelivered, rfl, rfl, rfl, ?_⟩
      exact .undelivered rfl (StepFault.deliveryFailed error).reasonOf?_toJson
    | ok receipt =>
      refine ⟨[ask .delivered], hrequest (by simp) rfl, ask .delivered, rfl, rfl, rfl, ?_⟩
      refine .delivered rfl ?_ ?_
      all_goals exact (Json.field?_object _ _).trans rfl

/-- Only alerts make requests, one each. -/
theorem execute_asks (services : Services σ) (run : Run) (node : Node) (kind : NodeKind)
    (context : Context) :
    (node.execute services run kind context).Writes .requests
      (Asks services run node kind context) := by
  refine execute_writes now_silent (fun _ _ _ _ _ => outside_silent _) (fun _ _ _ _ => outside_silent _)
    (fun outcome hunsent => .nothing hunsent) ?_
  rintro rfl deliver - message template
  refine (sendAlert_asks deliver _ _ message template context).mono ?_
  rintro outcome _ ⟨request, rfl, hkey, hcooldown, hshown⟩
  exact .request rfl hkey hcooldown hshown

end Node

/-! ## Visits -/

/-- An alert that shows that it asked for its key. -/
def Visit.AsksForKey (visit : Visit) : Prop :=
  visit.kind? = some .alert ∧ Alert.ShowsRequest visit.status visit.output visit.error

instance (visit : Visit) : Decidable visit.AsksForKey := inferInstanceAs (Decidable (_ ∧ _))

/-- A visit makes a request: it asks for the key of its node and its trigger with the cooldown of the node,
and it shows what became of that. The children of an alert that is silenced are visited. -/
structure Visit.Makes (services : Services σ) (run : Run) (index : GraphIndex) (visit : Visit)
    (request : AlertRequest) : Prop where
  asks : ∃ node context, index.node? visit.node = some node ∧ visit.input = Walk.inputOf context ∧
    request.key = Alert.cooldownKey run.workflowVersion visit.node context.trigger ∧
    request.cooldown = node.cooldown services.defaultCooldown
  shown : request.ShownBy visit.status visit.output visit.error
  during : visit.startedAt ≤ request.time ∧ request.time ≤ visit.finishedAt
  handsOn : request.answer = .silenced → visit.HandsOn

theorem Moment.Acts.during {moment : Moment σ} {node : Node} {input : Json} {outcome : Outcome}
    {opened closed : World σ} {requests : List AlertRequest}
    (h : moment.Acts node input outcome opened closed)
    (hrequests : Ledger.requests.Accounts opened requests closed) :
    ∀ request ∈ requests,
      moment.visit.startedAt ≤ request.time ∧ request.time ≤ moment.visit.finishedAt := by
  have hopened : opened.clock.now = moment.visit.startedAt := by
    have hstarted := congrArg (·.1) h.opened_eq
    have hworld := congrArg (·.2.clock.now) h.opened_eq
    exact hworld.symm.trans hstarted
  have hclosed : closed.clock.now ≤ moment.visit.finishedAt :=
    closed.clock.le_read.trans_eq (congrArg (·.1) h.closed_eq)
  intro request hrequest
  constructor
  · rw [← hopened]
    exact hrequests.start_le_time request hrequest
  · exact (hrequests.time_le request hrequest).trans hclosed

/-- What happens at the end of a path makes a request if its visit shows one. -/
theorem Walk.Happens.makes {services : Services σ} {run : Run} {index : GraphIndex} {trigger : Json}
    {values : Object} {path : List Visit} {moment : Moment σ}
    (h : Happens services run index trigger values path moment) :
    ∃ requests, Ledger.requests.Accounts moment.before requests moment.after ∧
      OneIf moment.visit.AsksForKey (moment.visit.Makes services run index) requests := by
  obtain ⟨node, outcome, opened, closed, requests, hnode, hacts, hrequests, hasks⟩ :=
    h.writes fun node kind => node.execute_asks services run kind _
  have hrecords := hacts.records
  have hduring := hacts.during hrequests
  refine ⟨requests, hacts.accounts Node.now_silent hrequests, ?_⟩
  have hnothing (hunsent : moment.visit.kind? = some .alert →
      Node.Unsent (contextOn trigger values path) outcome) : ¬ moment.visit.AsksForKey := by
    rintro ⟨hkind, hshows⟩
    rw [hrecords.status_eq, hrecords.output_eq, hrecords.error_eq] at hshows
    exact (hunsent hkind).not_showsRequest hshows
  rcases hasks with ⟨rfl, rfl⟩ | ⟨kind, hkind, -, hasks⟩
  · exact .none (hnothing fun _ => .failed .depthExceeded nofun)
  · have hkind' : moment.visit.kind? = some kind := hrecords.kind?_eq.trans hkind
    cases hasks with
    | nothing hunsent =>
      exact .none (hnothing fun halert => hunsent (Option.some.inj (hkind'.symm.trans halert)))
    | @request request halert hkey hcooldown hshown =>
      subst halert
      rw [← hrecords.status_eq, ← hrecords.output_eq, ← hrecords.error_eq] at hshown
      have htime := hduring request List.mem_cons_self
      refine .one ⟨hkind', hshown.showsRequest⟩
        ⟨⟨node, _, hnode, hrecords.input_eq, ?_, hcooldown⟩, hshown, htime,
          fun hsilenced => ⟨?_, ?_⟩⟩
      · rw [hkey, hrecords.node_eq]
      · exact hshown.ne_failed hsilenced
      · rw [hkind']
        nofun

namespace Execution

/-! ## Runs -/

/-- At a moment of a run a request is made if its visit shows one. -/
theorem Tells.makes_of_mem {services : Services σ} {run : Run} {version : WorkflowVersion}
    {record : TelemetryRecord} {correlation : CorrelationId} {first last : World σ}
    {result : ExecutionResult} {graph : Graph} {triggers : List TriggerMatch}
    {branches : List (Branch σ)}
    (h : Tells services run version record correlation first result last graph triggers branches)
    {moment : Moment σ} (hmoment : moment ∈ branches.flatMap Branch.moments) :
    ∃ requests, Ledger.requests.Accounts moment.before requests moment.after ∧
      OneIf moment.visit.AsksForKey (moment.visit.Makes services run graph.index) requests := by
  obtain ⟨trigger, htrigger, branch, -, htold, rfl | ⟨path, -, hhappens⟩⟩ := h.exists_of_mem hmoment
  · -- a trigger is no alert
    refine ⟨[], htold.started_silent .requests Node.now_silent, .none ?_⟩
    rintro ⟨halert, -⟩
    rw [h.kind?_started htrigger htold] at halert
    cases halert
  · exact hhappens.makes

/-- The requests of a run are those of its visits that ask for their keys, in order. -/
theorem Tells.makes {services : Services σ} {run : Run} {version : WorkflowVersion}
    {record : TelemetryRecord} {correlation : CorrelationId} {first last : World σ}
    {result : ExecutionResult} {graph : Graph} {triggers : List TriggerMatch}
    {branches : List (Branch σ)}
    (h : Tells services run version record correlation first result last graph triggers branches) :
    ∃ requests, Ledger.requests.Accounts first requests last ∧
      List.Forall₂ (Visit.Makes services run graph.index)
        (((branches.flatMap Branch.moments).map Moment.visit).filter (·.AsksForKey)) requests := by
  obtain ⟨requests, haccounts, hrequests⟩ :=
    h.trail.accounts .requests fun _ hmoment => h.makes_of_mem hmoment
  refine ⟨requests.flatten, haccounts, forall₂_filter_of_oneIf ?_⟩
  rw [List.forall₂_map_left_iff]
  exact hrequests

/-- An execution, with all that it is given and the world in which it starts. -/
structure Launch (σ : Type) where
  services : Services σ
  run : Run
  version : WorkflowVersion
  record : TelemetryRecord
  correlation : CorrelationId
  first : World σ

namespace Launch

/-- How the execution ends. -/
def answer (launch : Launch σ) : Except ExecutionError ExecutionResult :=
  (execute launch.services launch.run launch.version launch.record launch.correlation launch.first).1

/-- The world that the execution leaves. -/
def last (launch : Launch σ) : World σ :=
  (execute launch.services launch.run launch.version launch.record launch.correlation launch.first).2

/-- The requests of an execution: none if it cannot start, and else those of its visits that ask for their
keys. -/
inductive Makes (launch : Launch σ) : List AlertRequest → Prop
  | failed {error : ExecutionError} (hanswer : launch.answer = .error error) : Makes launch []
  | ran {result : ExecutionResult} {graph : Graph} {triggers : List TriggerMatch}
      {branches : List (Branch σ)} {requests : List AlertRequest} (hanswer : launch.answer = .ok result)
      (htells : Tells launch.services launch.run launch.version launch.record launch.correlation
        launch.first result launch.last graph triggers branches)
      (hrequests : List.Forall₂ (Visit.Makes launch.services launch.run graph.index)
        (((branches.flatMap Branch.moments).map Moment.visit).filter (·.AsksForKey)) requests) :
      Makes launch requests

/-- One execution follows another and shares its store: it starts when the other has ended, with the claims
that it left. Whatever else lies between them is free. -/
def Follows (earlier later : Launch σ) : Prop :=
  later.first.cooldowns = earlier.last.cooldowns ∧ earlier.last.clock.now ≤ later.first.clock.now

theorem makes (launch : Launch σ) :
    ∃ requests, Ledger.requests.Accounts launch.first requests launch.last ∧
      launch.Makes requests := by
  rcases execute_tells launch.services launch.run launch.version launch.record launch.correlation
      launch.first with
    ⟨error, heq⟩ | ⟨result, last, graph, triggers, branches, heq, htells⟩
  · have hlast : launch.last = launch.first := by rw [Launch.last, heq]
    have hanswer : launch.answer = .error error := by rw [answer, heq]
    refine ⟨[], ?_, .failed hanswer⟩
    rw [hlast]
    exact Ledger.requests.nil launch.first
  · have hlast : launch.last = last := by rw [Launch.last, heq]
    subst hlast
    obtain ⟨requests, haccounts, hrequests⟩ := htells.makes
    exact ⟨requests, haccounts, .ran (by rw [answer, heq]) htells hrequests⟩

/-- The requests of executions that follow one another follow one another. -/
theorem exists_requests (launch : Launch σ) (more : List (Launch σ))
    (hfollows : (launch :: more).IsChain Follows) :
    ∃ (requests : List (List AlertRequest)) (store : CooldownStore) (later : Nat),
      List.Forall₂ Makes (launch :: more) requests ∧
        Requests launch.first.cooldowns launch.first.clock.now requests.flatten store later := by
  induction more generalizing launch with
  | nil =>
    obtain ⟨requests, haccounts, hmakes⟩ := launch.makes
    refine ⟨[requests], launch.last.cooldowns, launch.last.clock.now, .cons hmakes .nil, ?_⟩
    rw [List.flatten_cons, List.flatten_nil, List.append_nil]
    exact haccounts
  | cons next more ih =>
    obtain ⟨hnext, hrest⟩ := List.isChain_cons_cons.mp hfollows
    obtain ⟨requests, haccounts, hmakes⟩ := launch.makes
    obtain ⟨others, store, later, hothers, hrequests⟩ := ih next hrest
    rw [hnext.1] at hrequests
    exact ⟨requests :: others, store, later, .cons hmakes hothers,
      haccounts.append (hrequests.le_start hnext.2)⟩

end Launch

/-- **Cooldowns are honoured.** After any calls of a store that are not later, a request succeeds exactly if no
earlier one for its key was given that was not released since and has not ended. So the requests of any
executions that share a store honour cooldowns: whether an alert is silenced is determined by the alerts
that were delivered before under its key. -/
theorem cooldowns_honoured (calls : List CooldownStore.Call) (key : String) (nanos now : Nat)
    (hcalls : ∀ call ∈ calls, call.instant ≤ now) (launch : Launch σ) (more : List (Launch σ))
    (hfollows : (launch :: more).IsChain Launch.Follows) :
    (((CooldownStore.empty.afterCalls calls).acquire key nanos now).1 = true ↔
      ¬ CooldownStore.Claimed calls key now) ∧
    ∃ requests : List (List AlertRequest), List.Forall₂ Launch.Makes (launch :: more) requests ∧
      HonourCooldowns launch.first.cooldowns requests.flatten := by
  refine ⟨CooldownStore.acquire_afterCalls calls hcalls, ?_⟩
  obtain ⟨requests, store, later, hmakes, hrequests⟩ := launch.exists_requests more hfollows
  exact ⟨requests, hmakes, hrequests.honourCooldowns⟩

end Execution

/-! ## Two runs of one alert -/

namespace Sample

/-- A trigger in front of an alert. -/
def warning : Graph :=
  .new [listener,
      .new "mail" "alert" (.object [
        ("channel", .str "email"), ("recipients", .arr [.str "staff@site.org"]),
        ("subject", .str "Power"), ("body", .str "The power is on.")])]
    [.new "first" "meter" "mail"]

/-- An execution of the warning in a new world. -/
def firstWarning : Execution.Launch Recorder := ⟨services, run, versionOf warning, record, ⟨0⟩, world⟩

/-- An execution of the warning right after the first one. -/
def secondWarning : Execution.Launch Recorder := { firstWarning with first := firstWarning.last }

/-- Some calls of a store. -/
def storeCalls : List CooldownStore.Call := [.acquire "a" 5 0, .acquire "b" 9 1, .release "b" 2]

/-- The types of the nodes that an execution visits, each with its ending. -/
def endings (launch : Execution.Launch Recorder) : List (String × StepStatus) :=
  match launch.answer with
  | .ok result => result.steps.map fun step => (step.nodeType, step.status)
  | .error _ => []

end Sample

namespace Execution

/-- The second of two runs without time between them is silent. -/
theorem cooldowns_honoured_warning :
    (∀ call ∈ Sample.storeCalls, call.instant ≤ 3) ∧
      [Sample.firstWarning, Sample.secondWarning].IsChain Launch.Follows ∧
      (((CooldownStore.empty.afterCalls Sample.storeCalls).acquire "a" 5 3).1 = true ↔
        ¬ CooldownStore.Claimed Sample.storeCalls "a" 3) ∧
      (∃ requests : List (List AlertRequest),
        List.Forall₂ Launch.Makes [Sample.firstWarning, Sample.secondWarning] requests ∧
        HonourCooldowns Sample.firstWarning.first.cooldowns requests.flatten) ∧
      Sample.endings Sample.firstWarning =
        [("telemetry-trigger", .completed), ("alert", .completed)] ∧
      Sample.endings Sample.secondWarning =
        [("telemetry-trigger", .completed), ("alert", .skipped)] := by
  have hcalls : ∀ call ∈ Sample.storeCalls, call.instant ≤ 3 := by decide
  have hfollows : [Sample.firstWarning, Sample.secondWarning].IsChain Launch.Follows :=
    .cons_cons ⟨rfl, le_rfl⟩ (.singleton _)
  obtain ⟨hacquire, hrequests⟩ :=
    cooldowns_honoured Sample.storeCalls "a" 5 3 hcalls Sample.firstWarning [Sample.secondWarning] hfollows
  exact ⟨hcalls, hfollows, hacquire, hrequests, by decide +kernel, by decide +kernel⟩

end Execution

end TelemetryAutomation
