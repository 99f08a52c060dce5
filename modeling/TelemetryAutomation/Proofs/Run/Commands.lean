import TelemetryAutomation.Proofs.Run.Effects

/-!
# Commands of a run

The outside world may keep a list of the commands that the dispatcher is handed, or of those that it takes.
If nothing but the dispatcher appends to it, then what a run appends is known visit by visit: a visit of a
command either failed before there was a target, and appended nothing, or it handed the payload of its node
to the target to which the settings of the node resolve.
-/

namespace TelemetryAutomation

variable {σ ε : Type}

/-- A list in the outside world to which the dispatcher appends, and nothing else. What it appends goes with
the target, the payload and its answer. -/
structure Services.Lists (services : Services σ) (view : σ → List ε)
    (made : CommandTarget → Object → Except DispatchError CommandLog → List ε → Prop) : Prop where
  dispatch : ∀ (target : CommandTarget) payload user time,
    (Action.outside (services.dispatch target.device target.topic payload user time)).Writes
      (.list (view ·.outside)) (made target payload)
  query : ∀ query, services.query = some query → ∀ run settings context,
    (Action.outside (query.execute run settings context)).Silent (.list (view ·.outside))
  deliver : ∀ deliver, services.deliver = some deliver → ∀ message template,
    (Action.outside (deliver message template)).Silent (.list (view ·.outside))

/-- A visit handed a payload over: its node is a command whose settings resolve to the target and hold the
payload, and it ended as the answer says. -/
structure Visit.HandsOver (catalog : Catalog) (run : Run) (index : GraphIndex) (visit : Visit)
    (target : CommandTarget) (payload : Object) (answer : Except DispatchError CommandLog) : Prop where
  resolves : ∃ node, index.node? visit.node = some node ∧ node.kind? = some .command ∧
    node.commandSettings.Resolves catalog run.organization target payload
  kind?_eq : visit.kind? = some .command
  ends : ∃ context, visit.status = (Node.answerOutcome target context answer).status ∧
    visit.output = (Node.answerOutcome target context answer).output

section

variable (catalog : Catalog) (run : Run)
  (made : CommandTarget → Object → Except DispatchError CommandLog → List ε → Prop)

/-- What a node appends to a list of commands. -/
inductive Node.Adds (node : Node) (kind : NodeKind) (context : Context) : Outcome → List ε → Prop
  | nothing {outcome : Outcome} (h : kind = .command → ∃ fault, outcome = .failed fault) :
      Adds node kind context outcome []
  | command {target : CommandTarget} {payload : Object} {answer : Except DispatchError CommandLog}
      {added : List ε} (hkind : kind = .command)
      (hresolves : node.commandSettings.Resolves catalog run.organization target payload)
      (hmade : made target payload answer added) :
      Adds node kind context (answerOutcome target context answer) added

/-- What a visit appends to a list of commands. -/
inductive Visit.Adds (index : GraphIndex) (visit : Visit) : List ε → Prop
  | nothing (h : visit.kind? = some .command → visit.status = .failed ∧ visit.output = .object []) :
      Adds index visit []
  | command {target : CommandTarget} {payload : Object} {answer : Except DispatchError CommandLog}
      {added : List ε} (hhands : visit.HandsOver catalog run index target payload answer)
      (hmade : made target payload answer added) : Adds index visit added

end

variable {services : Services σ} {run : Run} {view : σ → List ε}
  {made : CommandTarget → Object → Except DispatchError CommandLog → List ε → Prop}

namespace Services.Lists

theorem handOver (h : services.Lists view made) (target : CommandTarget) (payload : Object)
    (context : Context) :
    (Node.handOver services target payload context).Writes (.list (view ·.outside)) fun outcome added =>
      ∃ answer, made target payload answer added ∧
        outcome = Node.answerOutcome target context answer := by
  refine .after (Action.silent_of_eq fun _ => rfl) fun time => ?_
  refine .before (h.dispatch target payload none _) (fun _ => .pure) ?_
  intro answer added hmade world
  exact ⟨answer, hmade, rfl⟩

theorem runCommand (h : services.Lists view made) (node : Node) (context : Context) :
    (Node.runCommand services run node.commandSettings context).Writes (.list (view ·.outside))
      (node.Adds services.catalog run made .command context) := by
  rcases Node.runCommand_cases services.catalog run node.commandSettings context with
    ⟨fault, hfails⟩ | ⟨target, payload, hresolves, hsends⟩
  · rw [hfails σ services rfl]
    exact .pure (.nothing fun _ => ⟨fault, rfl⟩)
  · rw [hsends σ services rfl]
    refine (h.handOver target payload context).mono ?_
    rintro outcome added ⟨answer, hmade, rfl⟩
    exact .command rfl hresolves hmade

/-- Only commands append to the list. -/
theorem execute (h : services.Lists view made) (node : Node) (kind : NodeKind) (context : Context) :
    (node.execute services run kind context).Writes (.list (view ·.outside))
      (node.Adds services.catalog run made kind context) := by
  have hsilent {act : Action σ Outcome} (hkind : kind ≠ .command)
      (hact : act.Silent (.list (view ·.outside))) :
      act.Writes (.list (view ·.outside)) (node.Adds services.catalog run made kind context) := by
    refine hact.writes.mono ?_
    rintro outcome added rfl
    exact .nothing fun hcommand => absurd hcommand hkind
  rcases Node.execute_cases services run node kind context with
    ⟨rfl, heq⟩ | ⟨rfl, heq⟩ | ⟨query, rfl, hquery, heq⟩ | ⟨deliver, rfl, hdeliver, heq⟩ |
    ⟨-, hkind, heq⟩
  · rw [heq]
    exact hsilent nofun .pure
  · rw [heq]
    exact h.runCommand node context
  · rw [heq]
    exact hsilent nofun (Node.runQuery_silent (fun _ _ => h.query query hquery _ _ _) node context)
  · rw [heq]
    refine Node.runAlert_writes (fun outcome _ => .nothing nofun) fun message template => ?_
    -- the store of cooldowns lies beside the outside world
    refine hsilent nofun (Node.sendAlert_silent ?_ ?_ (h.deliver deliver hdeliver) _ _ _ _ _)
    · exact fun _ _ => Action.silent_of_eq fun _ => rfl
    · exact fun _ => Action.silent_of_eq fun _ => rfl
  · rw [heq]
    exact hsilent hkind .pure

/-- What happens at the end of a path appends what its visit shows, and nothing if the path is too long. -/
theorem happens (h : services.Lists view made) {index : GraphIndex} {trigger : Json} {values : Object}
    {path : List Visit} {moment : Moment σ}
    (hhappens : Walk.Happens services run index trigger values path moment) :
    ∃ added, view moment.after.outside = view moment.before.outside ++ added ∧
      moment.visit.Adds services.catalog run made index added ∧
      (added ≠ [] → path.length < Walk.limit services) := by
  obtain ⟨node, outcome, opened, closed, added, hnode, hacts, hadded, hadds⟩ :=
    hhappens.writes fun node kind => h.execute node kind _
  have hrecords := hacts.records
  refine ⟨added, hacts.accounts (Action.silent_of_eq fun _ => rfl) hadded, ?_⟩
  have hfailed (fault : StepFault) (heq : outcome = .failed fault) :
      moment.visit.status = .failed ∧ moment.visit.output = .object [] := by
    rw [hrecords.status_eq, hrecords.output_eq, heq]
    exact ⟨rfl, rfl⟩
  rcases hadds with ⟨rfl, houtcome⟩ | ⟨kind, hkind, hdepth, hadds⟩
  · exact ⟨.nothing fun _ => hfailed _ houtcome, fun hne => absurd rfl hne⟩
  · refine ⟨?_, fun _ => hdepth⟩
    cases hadds with
    | nothing hnothing =>
      refine .nothing fun hcommand => ?_
      rw [hrecords.kind?_eq, hkind] at hcommand
      obtain ⟨fault, houtcome⟩ := hnothing (Option.some.inj hcommand)
      exact hfailed fault houtcome
    | @command target payload answer added hcommand hresolves hmade =>
      subst hcommand
      refine .command ⟨⟨node, hnode, hkind, hresolves⟩, ?_, ?_⟩ hmade
      · rw [hrecords.kind?_eq, hkind]
      · exact ⟨_, hrecords.status_eq, hrecords.output_eq⟩

/-- At each moment of a run its visit shows what is appended, and nothing is appended at a visit that is too
deep. -/
theorem of_mem (h : services.Lists view made) {version : WorkflowVersion} {record : TelemetryRecord}
    {correlation : CorrelationId} {first last : World σ} {result : ExecutionResult} {graph : Graph}
    {triggers : List TriggerMatch} {branches : List (Execution.Branch σ)}
    (htells : Execution.Tells services run version record correlation first result last graph triggers
      branches) {moment : Moment σ} (hmoment : moment ∈ branches.flatMap Execution.Branch.moments) :
    ∃ added, view moment.after.outside = view moment.before.outside ++ added ∧
      moment.visit.Adds services.catalog run made graph.index added ∧
      (added ≠ [] → ∃ trigger ∈ triggers, ∃ branch ∈ branches,
        branch.Tells services run graph.index record trigger ∧
        ∃ path, (path, moment.visit) ∈ branch.forest.paths [] ∧ path.length < Walk.limit services) := by
  obtain ⟨trigger, htrigger, branch, hbranch, htold, rfl | ⟨path, hpath, hhappens⟩⟩ :=
    htells.exists_of_mem hmoment
  · -- a trigger appends nothing
    refine ⟨[], ?_, .nothing fun hcommand => ?_, fun hne => absurd rfl hne⟩
    · exact htold.started_silent (.list (view ·.outside)) (Action.silent_of_eq fun _ => rfl)
    · rw [htells.kind?_started htrigger htold] at hcommand
      cases hcommand
  · obtain ⟨added, hadded, hadds, hdepth⟩ := h.happens hhappens
    exact ⟨added, hadded, hadds, fun hne =>
      ⟨trigger, htrigger, branch, hbranch, htold, path, hpath, hdepth hne⟩⟩

end Services.Lists

end TelemetryAutomation
