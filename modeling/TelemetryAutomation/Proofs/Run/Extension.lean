import TelemetryAutomation.Proofs.Run.Actions
import TelemetryAutomation.Proofs.Run.Behavior
import TelemetryAutomation.Run.Execution

/-!
# Runs in a wider world

The outside world can be made wider, by logs and the like, without a run taking notice of it. Services
`Extend` others if they do and answer the same on the part of the world that the others know. Then whatever is
built on the services does the same as well, from single nodes to whole runs
(`Execution.execute_extends`).
-/

namespace TelemetryAutomation

variable {σ τ α β : Type} {part : τ → σ}

/-- The world with a part of its outside. -/
def World.onPart (part : τ → σ) (world : World τ) : World σ :=
  ⟨world.clock, world.cooldowns, part world.outside⟩

/-- An action in the wider world gives the same result and has the same effect on the part. -/
def Action.Extends (wide : Action τ α) (act : Action σ α) (part : τ → σ) : Prop :=
  ∀ world, act (world.onPart part) = ((wide world).1, (wide world).2.onPart part)

/-- Services for the wider world that do the same on the part as others. -/
structure Services.Extends (wide : Services τ) (services : Services σ) (part : τ → σ) : Prop where
  catalog_eq : wide.catalog = services.catalog
  evaluate_eq : wide.evaluate = services.evaluate
  dispatch : ∀ device topic payload user time,
    (Action.outside (wide.dispatch device topic payload user time)).Extends
      (Action.outside (services.dispatch device topic payload user time)) part
  query : Option.Rel (fun (wide : QueryService τ) (query : QueryService σ) =>
    ∀ run settings context, (Action.outside (wide.execute run settings context)).Extends
      (Action.outside (query.execute run settings context)) part) wide.query services.query
  deliver : Option.Rel (fun wide deliver => ∀ message template,
    (Action.outside (wide message template)).Extends (Action.outside (deliver message template)) part)
    wide.deliver services.deliver
  defaultCooldown_eq : wide.defaultCooldown = services.defaultCooldown
  maxDepth_eq : wide.maxDepth = services.maxDepth

namespace Action.Extends

variable {wide : Action τ α} {act : Action σ α}

theorem pure (value : α) : Extends (Pure.pure value) (Pure.pure value) part := fun _ => rfl

theorem bind {rest : α → Action τ β} {rest' : α → Action σ β} (h : wide.Extends act part)
    (hrest : ∀ value, (rest value).Extends (rest' value) part) :
    (wide >>= rest).Extends (act >>= rest') part := by
  intro world
  rw [bind_apply, h world, hrest _ _, bind_apply]

theorem map {f : α → β} (h : wide.Extends act part) : Extends (f <$> wide) (f <$> act) part := by
  intro world
  rw [map_apply, h world, map_apply]

theorem mapM {items : List α} {wide : α → Action τ β} {act : α → Action σ β}
    (h : ∀ item ∈ items, (wide item).Extends (act item) part) :
    Extends (items.mapM wide) (items.mapM act) part := by
  induction items with
  | nil => exact .pure []
  | cons item rest ih =>
    obtain ⟨hitem, hrest⟩ := List.forall_mem_cons.mp h
    rw [List.mapM_cons, List.mapM_cons]
    exact hitem.bind fun first => (ih hrest).bind fun more => .pure (first :: more)

theorem now : Extends Action.now Action.now part := fun _ => rfl

theorem acquire (key : String) (cooldown : Cooldown) :
    Extends (Action.acquire key cooldown) (Action.acquire key cooldown) part := fun _ => rfl

theorem release (key : String) : Extends (Action.release key) (Action.release key) part := fun _ => rfl

end Action.Extends

/-! ## Nodes -/

namespace Node

variable {wide : Services τ} {services : Services σ}

theorem runCommand_extends (h : wide.Extends services part) (run : Run) (settings : CommandSettings)
    (context : Context) :
    (runCommand wide run settings context).Extends (runCommand services run settings context) part := by
  rcases runCommand_cases services.catalog run settings context with
    ⟨fault, hfails⟩ | ⟨target, payload, -, hsends⟩
  · rw [hfails τ wide h.catalog_eq, hfails σ services rfl]
    exact .pure _
  · rw [hsends τ wide h.catalog_eq, hsends σ services rfl]
    refine .bind .now fun time => ?_
    exact .bind (h.dispatch _ _ _ _ _) fun answer => .pure _

theorem runQuery_extends {query : QueryService τ} {query' : QueryService σ}
    (h : ∀ run settings context, (Action.outside (query.execute run settings context)).Extends
      (Action.outside (query'.execute run settings context)) part)
    (run : Run) (node : Node) (context : Context) :
    (runQuery query run node context).Extends (runQuery query' run node context) part := by
  unfold runQuery
  split
  · exact .pure _
  · refine .bind (h _ _ _) fun answer => ?_
    cases answer with
    | error error => exact .pure _
    | ok result => exact .pure _

section

variable {deliver : AlertMessage → Json → τ → Except AlertError Json × τ}
  {deliver' : AlertMessage → Json → σ → Except AlertError Json × σ}

theorem sendAlert_extends
    (h : ∀ message template, (Action.outside (deliver message template)).Extends
      (Action.outside (deliver' message template)) part)
    (key : String) (cooldown : Cooldown) (message : AlertMessage) (template : Json) (context : Context) :
    (sendAlert deliver key cooldown message template context).Extends
      (sendAlert deliver' key cooldown message template context) part := by
  unfold sendAlert
  refine .bind (.acquire key cooldown) fun claimed => ?_
  cases claimed with
  | false => exact .pure _
  | true =>
    refine .bind (h _ _) fun answer => ?_
    cases answer with
    | error error => exact .bind (.release key) fun _ => .pure _
    | ok receipt => exact .pure _

theorem runAlert_extends (hcooldown : wide.defaultCooldown = services.defaultCooldown)
    (h : ∀ message template, (Action.outside (deliver message template)).Extends
      (Action.outside (deliver' message template)) part)
    (run : Run) (node : Node) (context : Context) :
    (runAlert wide deliver run node context).Extends (runAlert services deliver' run node context)
      part := by
  rcases runAlert_cases services.defaultCooldown run node context with
    ⟨outcome, -, hends⟩ | ⟨message, template, hsends⟩
  · rw [hends τ wide deliver hcooldown, hends σ services deliver' rfl]
    exact .pure _
  · rw [hsends τ wide deliver hcooldown, hsends σ services deliver' rfl]
    exact sendAlert_extends h _ _ _ _ context

end

theorem execute_extends (h : wide.Extends services part) (run : Run) (node : Node) (kind : NodeKind)
    (context : Context) :
    (node.execute wide run kind context).Extends (node.execute services run kind context) part := by
  cases kind with
  | telemetryTrigger => exact .pure _
  | scheduleTrigger => exact .pure _
  | other name => exact .pure _
  | condition =>
    have hsame : runCondition wide = runCondition services := by
      funext settings context
      rw [runCondition, runCondition, h.evaluate_eq]
    simp only [execute, hsame]
    exact .pure _
  | command => exact runCommand_extends h run node.commandSettings context
  | query =>
    have hquery := h.query
    simp only [execute]
    generalize wide.query = service, services.query = service' at hquery ⊢
    cases hquery with
    | none => exact .pure _
    | some hexecute => exact runQuery_extends hexecute run node context
  | alert =>
    have hdeliver := h.deliver
    simp only [execute]
    generalize wide.deliver = service, services.deliver = service' at hdeliver ⊢
    cases hdeliver with
    | none => exact .pure _
    | some hsends => exact runAlert_extends h.defaultCooldown_eq hsends run node context

end Node

/-! ## Walks and runs -/

namespace Walk

theorem visit_extends (node : Node) (input : Json) {wide : Action τ Outcome} {act : Action σ Outcome}
    (h : wide.Extends act part) : (visit node input wide).Extends (visit node input act) part := by
  refine .bind .now fun startedAt => ?_
  refine .bind h fun outcome => ?_
  exact .bind .now fun finishedAt => .pure _

variable {wide : Services τ} {services : Services σ}

theorem walk_extends (h : wide.Extends services part) (run : Run) (index : GraphIndex)
    (stack : List Frame) :
    (walk wide run index stack).Extends (walk services run index stack) part := by
  have hlimit : limit wide = limit services := by rw [limit, limit, h.maxDepth_eq]
  fun_induction walk services run index stack with
  | case1 =>
    rw [walk]
    exact .pure _
  | case2 frame rest hnode ih =>
    rw [walk, hnode]
    exact ih
  | case3 frame rest node hnode hkind ih =>
    rw [walk, hnode]
    simp only [hkind]
    exact ih
  | case4 frame rest node hnode kind hkind hdepth ih =>
    rw [walk, hnode]
    simp only [hkind, hlimit, if_pos hdepth]
    refine .bind (.map (visit_extends _ _ (.pure _))) fun refused => ?_
    exact .bind ih fun more => .pure _
  | case5 frame rest node hnode kind hkind hdepth ihSkip ihBelow =>
    rw [walk, hnode]
    simp only [hkind, hlimit, if_neg hdepth]
    have henter := Node.execute_extends h run node kind frame.context
    refine .bind (visit_extends _ _ henter) fun entry => ?_
    obtain ⟨entered, next⟩ := entry
    cases next with
    | none => exact .bind ihSkip fun more => .pure _
    | some next => exact .bind (ihBelow next) fun more => .pure _

end Walk

namespace Execution

variable {wide : Services τ} {services : Services σ}

/-- **A run takes no notice of a wider world.** It gives the same result and has the same effect on the part
of the world that its services know. -/
theorem execute_extends (h : wide.Extends services part) (run : Run) (version : WorkflowVersion)
    (record : TelemetryRecord) (correlation : CorrelationId) :
    (execute wide run version record correlation).Extends
      (execute services run version record correlation) part := by
  unfold execute
  cases version.readGraph with
  | error error => exact .pure _
  | ok graph =>
    simp only [h.catalog_eq]
    cases matchTriggers services.catalog graph record with
    | error error => exact .pure _
    | ok triggers =>
      cases triggers with
      | nil => exact .pure _
      | cons first rest =>
        refine .map (.bind (.mapM fun trigger _ => ?_) fun branches => .pure _)
        refine .bind (Walk.visit_extends _ _ (.pure _)) fun started => ?_
        exact .bind (Walk.walk_extends h run graph.index _) fun below => .pure _

end Execution

end TelemetryAutomation
