import TelemetryAutomation.Proofs.Run.Actions
import TelemetryAutomation.Proofs.Run.Behavior
import TelemetryAutomation.Run.Execution

/-!
# Journals of commands

Which commands a run dispatches cannot be seen in its steps alone. Services can be made to keep a journal of
the commands that they are handed, beside the outside world and without any other effect. `Journals` says
of an action that it does the same with such services as without them, and of which kind the commands are
that it adds to the journal. It is known of a run if it is known of its nodes (`Execution.execute_journals`).
-/

namespace TelemetryAutomation

variable {σ α β : Type}

/-- A command that was handed to the services. -/
structure Dispatched where
  device : Device
  topic : Topic
  payload : Object

namespace Services

/-- Acts on the outside world and leaves the journal as it is. -/
def silently (act : σ → α × σ) : σ × List Dispatched → α × (σ × List Dispatched) :=
  fun (outside, journal) =>
    let (result, outside) := act outside
    (result, outside, journal)

/-- The same services with a journal of the commands that they are handed. -/
def journaled (services : Services σ) : Services (σ × List Dispatched) where
  catalog := services.catalog
  evaluate := services.evaluate
  dispatch device topic payload user time := fun (outside, journal) =>
    let (result, outside) := services.dispatch device topic payload user time outside
    (result, outside, journal ++ [⟨device, topic, payload⟩])
  query := services.query.map fun query => {
    check := query.check
    execute := fun run settings context => silently (query.execute run settings context) }
  deliver := services.deliver.map fun deliver message template => silently (deliver message template)
  defaultCooldown := services.defaultCooldown
  maxDepth := services.maxDepth

@[simp] theorem journaled_catalog (services : Services σ) :
    services.journaled.catalog = services.catalog := rfl

end Services

/-- A world with a journal of commands. -/
def World.withJournal (world : World σ) (journal : List Dispatched) : World (σ × List Dispatched) :=
  ⟨world.clock, world.cooldowns, world.outside, journal⟩

namespace Action

/-- An action does the same as another one, and it adds allowed commands to the journal. -/
def Journals (journaled : Action (σ × List Dispatched) α) (act : Action σ α)
    (allowed : Dispatched → Prop) : Prop :=
  ∀ world journal, ∃ sent, (∀ command ∈ sent, allowed command) ∧
    journaled (world.withJournal journal) =
      ((act world).1, (act world).2.withJournal (journal ++ sent))

namespace Journals

variable {journaled : Action (σ × List Dispatched) α} {act : Action σ α}
  {allowed : Dispatched → Prop}

/-- The journal may stay as it is. -/
theorem of_eq (h : ∀ world journal, journaled (world.withJournal journal) =
    ((act world).1, (act world).2.withJournal journal)) : Journals journaled act allowed := by
  intro world journal
  refine ⟨[], nofun, ?_⟩
  rw [List.append_nil]
  exact h world journal

theorem pure (value : α) : Journals (σ := σ) (Pure.pure value) (Pure.pure value) allowed :=
  of_eq fun _ _ => rfl

theorem bind {rest : α → Action (σ × List Dispatched) β} {rest' : α → Action σ β}
    (h : Journals journaled act allowed)
    (hrest : ∀ value, Journals (rest value) (rest' value) allowed) :
    Journals (journaled >>= rest) (act >>= rest') allowed := by
  intro world journal
  obtain ⟨sent, hsent, hact⟩ := h world journal
  obtain ⟨sent', hsent', hrest'⟩ := hrest (act world).1 (act world).2 (journal ++ sent)
  refine ⟨sent ++ sent', List.forall_mem_append.mpr ⟨hsent, hsent'⟩, ?_⟩
  rw [bind_apply, hact, hrest', bind_apply, List.append_assoc]

theorem map {f : α → β} (h : Journals journaled act allowed) :
    Journals (f <$> journaled) (f <$> act) allowed := by
  intro world journal
  obtain ⟨sent, hsent, hact⟩ := h world journal
  refine ⟨sent, hsent, ?_⟩
  rw [map_apply, hact, map_apply]

theorem mapM {items : List α} {journaled : α → Action (σ × List Dispatched) β}
    {act : α → Action σ β} (h : ∀ item ∈ items, Journals (journaled item) (act item) allowed) :
    Journals (items.mapM journaled) (items.mapM act) allowed := by
  induction items with
  | nil => exact .pure []
  | cons item rest ih =>
    obtain ⟨hitem, hrest⟩ := List.forall_mem_cons.mp h
    rw [List.mapM_cons, List.mapM_cons]
    exact hitem.bind fun first => (ih hrest).bind fun more => .pure (first :: more)

theorem now : Journals (σ := σ) Action.now Action.now allowed := of_eq fun _ _ => rfl

theorem acquire (key : String) (cooldown : Cooldown) :
    Journals (σ := σ) (Action.acquire key cooldown) (Action.acquire key cooldown) allowed :=
  of_eq fun _ _ => rfl

theorem release (key : String) :
    Journals (σ := σ) (Action.release key) (Action.release key) allowed :=
  of_eq fun _ _ => rfl

theorem outside_silently (act : σ → α × σ) :
    Journals (outside (Services.silently act)) (outside act) allowed :=
  of_eq fun _ _ => rfl

theorem outside_dispatch {services : Services σ} {device : Device} {topic : Topic}
    {payload : Object} (user : Option (Key .user)) (time : Timestamp)
    (h : allowed ⟨device, topic, payload⟩) :
    Journals (outside (services.journaled.dispatch device topic payload user time))
      (outside (services.dispatch device topic payload user time)) allowed :=
  fun _ _ => ⟨[⟨device, topic, payload⟩], List.forall_mem_singleton.mpr h, rfl⟩

end Journals

end Action

/-- A command to a device of an organization. -/
def Dispatched.IsOf (organization : Key .organization) (command : Dispatched) : Prop :=
  command.device.organization = organization

namespace Node

variable (services : Services σ) (run : Run)

theorem runCondition_journaled (settings : ConditionSettings) (context : Context) :
    runCondition services.journaled settings context = runCondition services settings context := rfl

/-- A command goes to a device of the organization for which it was resolved. -/
theorem runCommand_journals (settings : CommandSettings) (context : Context) :
    (runCommand services.journaled run settings context).Journals
      (runCommand services run settings context) (Dispatched.IsOf run.organization) := by
  rcases runCommand_cases services.catalog run settings context with
    ⟨fault, hfails⟩ | ⟨target, payload, hresolves, hsends⟩
  · rw [hfails _ services.journaled rfl, hfails σ services rfl]
    exact .pure _
  · rw [hsends _ services.journaled rfl, hsends σ services rfl]
    refine .bind .now fun time => ?_
    exact .bind (.outside_dispatch _ _ hresolves.organization_eq) fun answer => .pure _

variable {allowed : Dispatched → Prop}

theorem runQuery_journals (query : QueryService σ) (node : Node) (context : Context) :
    (runQuery ⟨query.check, fun run settings context =>
        Services.silently (query.execute run settings context)⟩ run node context).Journals
      (runQuery query run node context) allowed := by
  unfold runQuery
  split
  · exact .pure _
  · refine .bind (.outside_silently _) fun answer => ?_
    cases answer with
    | error error => exact .pure _
    | ok result => exact .pure _

theorem sendAlert_journals (deliver : AlertMessage → Json → σ → Except AlertError Json × σ)
    (key : String) (cooldown : Cooldown) (message : AlertMessage) (template : Json)
    (context : Context) :
    (sendAlert (fun message template => Services.silently (deliver message template)) key cooldown
        message template context).Journals
      (sendAlert deliver key cooldown message template context) allowed := by
  unfold sendAlert
  refine .bind (.acquire key cooldown) fun claimed => ?_
  cases claimed with
  | false => exact .pure _
  | true =>
    refine .bind (.outside_silently _) fun answer => ?_
    cases answer with
    | error error => exact .bind (.release key) fun _ => .pure _
    | ok receipt => exact .pure _

theorem runAlert_journals (deliver : AlertMessage → Json → σ → Except AlertError Json × σ)
    (node : Node) (context : Context) :
    (runAlert services.journaled
        (fun message template => Services.silently (deliver message template)) run node
        context).Journals
      (runAlert services deliver run node context) allowed := by
  rcases runAlert_cases services.defaultCooldown run node context with
    ⟨outcome, -, hends⟩ | ⟨message, template, hsends⟩
  · rw [hends _ services.journaled _ rfl, hends σ services deliver rfl]
    exact .pure _
  · rw [hsends _ services.journaled _ rfl, hsends σ services deliver rfl]
    exact sendAlert_journals deliver _ _ _ _ context

/-- What a node does is the same with a journal, and it sends commands within the organization of the
run. -/
theorem execute_journals (node : Node) (kind : NodeKind) (context : Context) :
    (node.execute services.journaled run kind context).Journals
      (node.execute services run kind context) (Dispatched.IsOf run.organization) := by
  cases kind with
  | telemetryTrigger => exact .pure _
  | scheduleTrigger => exact .pure _
  | other name => exact .pure _
  | condition =>
    simp only [execute, runCondition_journaled]
    exact .pure _
  | command => exact runCommand_journals services run node.commandSettings context
  | query =>
    simp only [execute, Services.journaled]
    cases services.query with
    | none => exact .pure _
    | some query => exact runQuery_journals run query node context
  | alert =>
    simp only [execute, Services.journaled]
    cases services.deliver with
    | none => exact .pure _
    | some deliver => exact runAlert_journals services run deliver node context

end Node

namespace Walk

variable (services : Services σ) (run : Run)

theorem visit_journals (node : Node) (input : Json) {allowed : Dispatched → Prop}
    {journaled : Action (σ × List Dispatched) Outcome} {act : Action σ Outcome}
    (h : journaled.Journals act allowed) :
    (visit node input journaled).Journals (visit node input act) allowed := by
  refine .bind .now fun startedAt => ?_
  refine .bind h fun outcome => ?_
  exact .bind .now fun finishedAt => .pure _

/-- A walk is the same with a journal: nodes are entered and refused alike, and they hand on the same
contexts. -/
theorem walk_journals (index : GraphIndex) (stack : List Frame) :
    (walk services.journaled run index stack).Journals (walk services run index stack)
      (Dispatched.IsOf run.organization) := by
  fun_induction walk services run index stack with
  | case1 =>
    rw [walk]
    exact .pure _
  | case2 frame rest hnode ih =>
    rw [walk, hnode]
    exact ih
  | case3 frame rest node hnode hkind ih =>
    rw [walk, hnode]
    simp only [hkind]
    exact ih
  | case4 frame rest node hnode kind hkind hdepth ih =>
    have hdepth' : limit services.journaled < frame.depth := hdepth
    rw [walk, hnode]
    simp only [hkind, if_pos hdepth']
    refine .bind (.map (visit_journals _ _ (.pure _))) fun refused => ?_
    exact .bind ih fun more => .pure _
  | case5 frame rest node hnode kind hkind hdepth ihSkip ihBelow =>
    have hdepth' : ¬ limit services.journaled < frame.depth := hdepth
    rw [walk, hnode]
    simp only [hkind, if_neg hdepth']
    have henter := Node.execute_journals services run node kind frame.context
    refine .bind (visit_journals _ _ henter) fun entry => ?_
    obtain ⟨entered, next⟩ := entry
    cases next with
    | none => exact .bind ihSkip fun more => .pure _
    | some next => exact .bind (ihBelow next) fun more => .pure _

end Walk

namespace Execution

variable (services : Services σ) (run : Run)

/-- **Commands stay in the organization of the run.** An execution is the same with a journal, and all
commands that it adds go to devices of the organization of its run. -/
theorem execute_journals (version : WorkflowVersion) (record : TelemetryRecord)
    (correlation : CorrelationId) :
    (execute services.journaled run version record correlation).Journals
      (execute services run version record correlation) (Dispatched.IsOf run.organization) := by
  unfold execute
  cases version.readGraph with
  | error error => exact .pure _
  | ok graph =>
    simp only [Services.journaled_catalog]
    cases matchTriggers services.catalog graph record with
    | error error => exact .pure _
    | ok triggers =>
      cases triggers with
      | nil => exact .pure _
      | cons first rest =>
        refine .map (.bind (.mapM fun trigger _ => ?_) fun branches => .pure _)
        refine .bind (Walk.visit_journals _ _ (.pure _)) fun started => ?_
        exact .bind (Walk.walk_journals services run graph.index _) fun below => .pure _

end Execution

end TelemetryAutomation
