import TelemetryAutomation.Proofs.Run.Moments

/-!
# Effects of a run

What a run does to the world can be written down: the commands that it hands over, the alerts that it
delivers, the keys for which it asks. A `Ledger` says which entries account for a change of the world. What
an action writes goes with its result, and it is known from its parts. So the entries of a run are known from
those of its nodes: they are carried over to moments, and from there along the trail of the run
(`Trail.accounts`).
-/

namespace TelemetryAutomation

variable {σ ε α β : Type}

/-- Which entries account for a change of the world. None do if nothing changes, and the entries of two
changes that follow one another account for both. -/
structure Ledger (σ ε : Type) where
  Accounts : World σ → List ε → World σ → Prop
  nil : ∀ world, Accounts world [] world
  append : ∀ {first middle last : World σ} {entries more : List ε},
    Accounts first entries middle → Accounts middle more last → Accounts first (entries ++ more) last

/-- The entries that are appended to a list in the world. -/
def Ledger.list (part : World σ → List ε) : Ledger σ ε where
  Accounts first entries last := part last = part first ++ entries
  nil world := (List.append_nil _).symm
  append := by
    intro first middle last entries more h hmore
    rw [hmore, h, List.append_assoc]

namespace Action

/-- Nothing is to be written of the action. -/
def Silent (act : Action σ α) (ledger : Ledger σ ε) : Prop :=
  ∀ world, ledger.Accounts world [] (act world).2

/-- What is to be written of the action goes with its result. -/
def Writes (act : Action σ α) (ledger : Ledger σ ε) (property : α → List ε → Prop) : Prop :=
  ∀ world, ∃ entries, ledger.Accounts world entries (act world).2 ∧ property (act world).1 entries

variable {act : Action σ α} {rest : α → Action σ β} {ledger : Ledger σ ε}
  {property other : α → List ε → Prop} {result : β → List ε → Prop}

theorem silent_of_eq {part : World σ → List ε} (h : ∀ world, part (act world).2 = part world) :
    act.Silent (.list part) :=
  fun world => (h world).trans (List.append_nil _).symm

theorem Silent.pure {value : α} : Silent (Pure.pure value) ledger := fun world => ledger.nil world

theorem Silent.bind (h : act.Silent ledger) (hrest : ∀ value, (rest value).Silent ledger) :
    Silent (act >>= rest) ledger :=
  fun world => ledger.append (h world) (hrest _ _)

theorem Silent.writes (h : act.Silent ledger) : act.Writes ledger fun _ entries => entries = [] :=
  fun world => ⟨[], h world, rfl⟩

theorem Writes.mono (h : act.Writes ledger property)
    (himp : ∀ value entries, property value entries → other value entries) : act.Writes ledger other := by
  intro world
  obtain ⟨entries, haccounts, hproperty⟩ := h world
  exact ⟨entries, haccounts, himp _ _ hproperty⟩

theorem Writes.pure {value : α} (h : property value []) : Writes (Pure.pure value) ledger property :=
  fun world => ⟨[], ledger.nil world, h⟩

/-- Something is written after nothing was. -/
theorem Writes.after (h : act.Silent ledger) (hrest : ∀ value, (rest value).Writes ledger result) :
    Writes (act >>= rest) ledger result := by
  intro world
  obtain ⟨entries, haccounts, hresult⟩ := hrest (act world).1 (act world).2
  exact ⟨entries, ledger.append (h world) haccounts, hresult⟩

/-- Nothing is written after something was. -/
theorem Writes.before (h : act.Writes ledger property) (hrest : ∀ value, (rest value).Silent ledger)
    (himp : ∀ value entries, property value entries → ∀ world, result (rest value world).1 entries) :
    Writes (act >>= rest) ledger result := by
  intro world
  obtain ⟨entries, haccounts, hproperty⟩ := h world
  refine ⟨entries, ?_, himp _ _ hproperty _⟩
  rw [← List.append_nil entries]
  exact ledger.append haccounts (hrest _ _)

end Action

/-! ## Nodes -/

namespace Node

variable {ledger : Ledger σ ε} {services : Services σ} {run : Run}

theorem runCommand_silent (hnow : Action.now.Silent ledger)
    (hdispatch : ∀ device topic payload user time,
      (Action.outside (services.dispatch device topic payload user time)).Silent ledger)
    (settings : CommandSettings) (context : Context) :
    (runCommand services run settings context).Silent ledger := by
  rcases runCommand_cases services.catalog run settings context with
    ⟨fault, hfails⟩ | ⟨target, payload, -, hsends⟩
  · rw [hfails σ services rfl]
    exact .pure
  · rw [hsends σ services rfl]
    exact .bind hnow fun time => .bind (hdispatch _ _ _ _ _) fun answer => .pure

theorem runQuery_silent {query : QueryService σ}
    (hexecute : ∀ settings context,
      (Action.outside (query.execute run settings context)).Silent ledger)
    (node : Node) (context : Context) : (runQuery query run node context).Silent ledger := by
  unfold runQuery
  split
  · exact .pure
  · refine .bind (hexecute _ _) fun answer => ?_
    cases answer with
    | error error => exact .pure
    | ok result => exact .pure

/-- An alert writes nothing unless it is sent. -/
theorem runAlert_writes {deliver : AlertMessage → Json → σ → Except AlertError Json × σ} {node : Node}
    {context : Context} {property : Outcome → List ε → Prop}
    (hunsent : ∀ outcome, Unsent context outcome → property outcome [])
    (hsend : ∀ message template,
      (sendAlert deliver (Alert.cooldownKey run.workflowVersion node.id context.trigger)
        (node.cooldown services.defaultCooldown) message template context).Writes ledger property) :
    (runAlert services deliver run node context).Writes ledger property := by
  rcases runAlert_cases services.defaultCooldown run node context with
    ⟨outcome, houtcome, hends⟩ | ⟨message, template, hsends⟩
  · rw [hends σ services deliver rfl]
    exact .pure (hunsent outcome houtcome)
  · rw [hsends σ services deliver rfl]
    exact hsend message template

theorem sendAlert_silent {deliver : AlertMessage → Json → σ → Except AlertError Json × σ}
    (hacquire : ∀ key cooldown, (Action.acquire key cooldown).Silent ledger)
    (hrelease : ∀ key, (Action.release key).Silent ledger)
    (hdeliver : ∀ message template, (Action.outside (deliver message template)).Silent ledger)
    (key : String) (cooldown : Cooldown) (message : AlertMessage) (template : Json)
    (context : Context) : (sendAlert deliver key cooldown message template context).Silent ledger := by
  unfold sendAlert
  refine .bind (hacquire _ _) fun claimed => ?_
  cases claimed with
  | false => exact .pure
  | true =>
    refine .bind (hdeliver _ _) fun answer => ?_
    cases answer with
    | error error => exact .bind (hrelease _) fun _ => .pure
    | ok receipt => exact .pure

/-- Where commands and queries write nothing, a node writes nothing unless it is an alert that is sent. -/
theorem execute_writes (hnow : Action.now.Silent ledger)
    (hdispatch : ∀ device topic payload user time,
      (Action.outside (services.dispatch device topic payload user time)).Silent ledger)
    (hquery : ∀ query, services.query = some query → ∀ settings context,
      (Action.outside (query.execute run settings context)).Silent ledger)
    {node : Node} {kind : NodeKind} {context : Context} {property : Outcome → List ε → Prop}
    (hnothing : ∀ outcome, (kind = .alert → Unsent context outcome) → property outcome [])
    (hsend : kind = .alert → ∀ deliver, services.deliver = some deliver → ∀ message template,
      (sendAlert deliver (Alert.cooldownKey run.workflowVersion node.id context.trigger)
        (node.cooldown services.defaultCooldown) message template context).Writes ledger property) :
    (node.execute services run kind context).Writes ledger property := by
  have hsilent {act : Action σ Outcome} (hkind : kind ≠ .alert) (hact : act.Silent ledger) :
      act.Writes ledger property := by
    refine hact.writes.mono ?_
    rintro outcome entries rfl
    exact hnothing outcome fun halert => absurd halert hkind
  rcases execute_cases services run node kind context with
    ⟨rfl, heq⟩ | ⟨rfl, heq⟩ | ⟨query, rfl, hservice, heq⟩ | ⟨deliver, rfl, hservice, heq⟩ |
    ⟨-, -, heq⟩
  · rw [heq]
    exact hsilent nofun .pure
  · rw [heq]
    exact hsilent nofun (runCommand_silent hnow hdispatch _ _)
  · rw [heq]
    exact hsilent nofun (runQuery_silent (hquery query hservice) _ _)
  · rw [heq]
    exact runAlert_writes (fun outcome hunsent => hnothing outcome fun _ => hunsent)
      (hsend rfl deliver hservice)
  · rw [heq]
    exact .pure (hnothing _ fun _ => .skipped .notImplemented)

end Node

/-! ## Moments -/

/-- One item with a property where a condition holds, and none elsewhere. -/
inductive OneIf (condition : Prop) (property : α → Prop) : List α → Prop
  | one {item : α} (hcondition : condition) (hitem : property item) : OneIf condition property [item]
  | none (hcondition : ¬ condition) : OneIf condition property []

theorem OneIf.eq_nil {condition : Prop} {property : α → Prop} {added : List α}
    (h : OneIf condition property added) (hcondition : ¬ condition) : added = [] := by
  cases h with
  | one hholds => exact absurd hholds hcondition
  | none => rfl

/-- Where each item adds one or none, what is added goes with the items that add one. -/
theorem forall₂_filter_of_oneIf {condition : α → Prop} [DecidablePred condition]
    {property : α → β → Prop} {items : List α} {added : List (List β)}
    (h : List.Forall₂ (fun item added => OneIf (condition item) (property item) added) items added) :
    List.Forall₂ property (items.filter (condition ·)) added.flatten := by
  induction h with
  | nil => exact .nil
  | @cons item first _ _ hfirst _ ih =>
    rw [List.filter_cons, List.flatten_cons]
    cases hfirst with
    | one hcondition hx =>
      rw [if_pos (decide_eq_true hcondition)]
      exact .cons hx ih
    | none hcondition =>
      rw [if_neg (by simpa using hcondition), List.nil_append]
      exact ih

/-- What is written of the trail of a run is what is written of its moments, one after the other. -/
theorem Trail.accounts {first last : World σ} {moments : List (Moment σ)}
    (h : Trail first moments last) (ledger : Ledger σ ε) {property : Moment σ → List ε → Prop}
    (hmoment : ∀ moment ∈ moments, ∃ entries,
      ledger.Accounts moment.before entries moment.after ∧ property moment entries) :
    ∃ entries, ledger.Accounts first entries.flatten last ∧ List.Forall₂ property moments entries := by
  induction h with
  | nil => exact ⟨[], ledger.nil _, .nil⟩
  | @cons moment rest last _ ih =>
    obtain ⟨⟨entries, haccounts, hproperty⟩, hrest⟩ := List.forall_mem_cons.mp hmoment
    obtain ⟨more, hmore, hproperties⟩ := ih hrest
    exact ⟨entries :: more, ledger.append haccounts hmore, .cons hproperty hproperties⟩

/-- Of a moment is written what is written of its node, if readings of the clock are silent. -/
theorem Moment.Acts.accounts {moment : Moment σ} {node : Node} {input : Json} {outcome : Outcome}
    {opened closed : World σ} {ledger : Ledger σ ε} {entries : List ε}
    (h : moment.Acts node input outcome opened closed) (hnow : Action.now.Silent ledger)
    (haccounts : ledger.Accounts opened entries closed) :
    ledger.Accounts moment.before entries moment.after := by
  have hopened := hnow moment.before
  have hclosed := hnow closed
  rw [h.opened_eq] at hopened
  rw [h.closed_eq] at hclosed
  have hall := ledger.append hopened (ledger.append haccounts hclosed)
  rwa [List.append_nil, List.nil_append] at hall

/-- What happens at the end of a path is written by its node, and nothing is if the path is too long. -/
theorem Walk.Happens.writes {services : Services σ} {run : Run} {index : GraphIndex} {trigger : Json}
    {values : Object} {path : List Visit} {moment : Moment σ} {ledger : Ledger σ ε}
    {property : Node → NodeKind → Outcome → List ε → Prop}
    (h : Happens services run index trigger values path moment)
    (hnode : ∀ (node : Node) kind,
      (node.execute services run kind (contextOn trigger values path)).Writes ledger
        (property node kind)) :
    ∃ node outcome opened closed entries, index.node? moment.visit.node = some node ∧
      moment.Acts node (inputOf (contextOn trigger values path)) outcome opened closed ∧
      ledger.Accounts opened entries closed ∧
      (entries = [] ∧ outcome = .failed .depthExceeded ∨
        ∃ kind, node.kind? = some kind ∧ path.length < limit services ∧
          property node kind outcome entries) := by
  obtain ⟨node, outcome, opened, closed, hfound, hacts, hrefused | ⟨kind, hkind, hdepth, hact⟩⟩ := h.acts
  · obtain ⟨houtcome, rfl⟩ := hrefused
    exact ⟨node, outcome, _, _, [], hfound, hacts, ledger.nil _, .inl ⟨rfl, houtcome⟩⟩
  · obtain ⟨entries, haccounts, hproperty⟩ := hnode node kind opened
    rw [hact] at haccounts hproperty
    exact ⟨node, outcome, opened, closed, entries, hfound, hacts, haccounts,
      .inr ⟨kind, hkind, hdepth, hproperty⟩⟩

/-- Nothing is written of a trigger. -/
theorem Execution.Branch.Tells.started_silent {services : Services σ} {run : Run} {index : GraphIndex}
    {record : TelemetryRecord} {trigger : TriggerMatch} {branch : Branch σ}
    (h : branch.Tells services run index record trigger) (ledger : Ledger σ ε)
    (hnow : Action.now.Silent ledger) :
    ledger.Accounts branch.started.before [] branch.started.after := by
  obtain ⟨world, hacts⟩ := h.started_acts
  exact hacts.accounts hnow (ledger.nil world)

end TelemetryAutomation
