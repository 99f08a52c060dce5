import TelemetryAutomation.Proofs.Run.Behavior
import TelemetryAutomation.Proofs.Run.Paths
import TelemetryAutomation.Proofs.Run.Visits

/-!
# What a node hands on

The context that a node hands on to its children is seen in its visit: whether it hands one on at all, and
the result that a query adds (`Node.execute_handsOn`). A query is completed only with a result that its
service gave (`Node.execute_answers`).
-/

namespace TelemetryAutomation

variable {σ : Type}

namespace Visit

variable {visit : Visit} {kind : NodeKind} (context : Context)

/-- Other nodes than conditions and queries hand on the context that they have. -/
theorem handedOn?_of_ne (hkind : visit.kind? = some kind) (hcondition : kind ≠ .condition)
    (hquery : kind ≠ .query) :
    visit.handedOn? context = if visit.status = .failed then none else some context := by
  have hhands : visit.HandsOn ↔ visit.status ≠ .failed := by simp [HandsOn, hkind, hcondition]
  have hanswer : visit.answer? = none := by simp [answer?, hkind, hquery]
  simp [handedOn?, hhands, below, hanswer]

theorem handedOn?_condition (hkind : visit.kind? = some .condition) :
    visit.handedOn? context =
      if visit.status ≠ .failed ∧ visit.output.field? "passed" = some (.bool true) then some context
      else none := by
  have hanswer : visit.answer? = none := by simp [answer?, hkind]
  simp [handedOn?, HandsOn, hkind, below, hanswer]

/-- A query adds its result if it was executed. -/
theorem handedOn?_query (hkind : visit.kind? = some .query) :
    visit.handedOn? context =
      match visit.status with
      | .completed => some (context.withQueryResult visit.node visit.output)
      | .failed => none
      | .skipped => some context := by
  cases hstatus : visit.status <;>
    simp [handedOn?, HandsOn, hkind, hstatus, below, answer?]

end Visit

/-- The query of a node can have a result in a context. -/
def Node.Answers (services : Services σ) (run : Run) (context : Context) (node : Node) (result : Json) :
    Prop :=
  ∃ query settings outside, services.query = some query ∧ node.settings? = some settings ∧
    (query.execute run settings context outside).1 = .ok result

/-- The context is handed on unless the node failed. -/
def Outcome.Keeps (context : Context) (outcome : Outcome) : Prop :=
  outcome.next = if outcome.status = .failed then none else some context

namespace Visit.Records

variable {visit : Visit} {node : Node} {kind : NodeKind} {input : Json} {outcome : Outcome}
  {context : Context}

theorem kind?_eq (h : visit.Records node input outcome) : visit.kind? = node.kind? := by
  rw [Visit.kind?, h.nodeType_eq, Node.kind?]

theorem next_of_keeps (h : visit.Records node input outcome) (hkind : node.kind? = some kind)
    (hcondition : kind ≠ .condition) (hquery : kind ≠ .query) (hkeeps : outcome.Keeps context) :
    outcome.next = visit.handedOn? context := by
  rw [visit.handedOn?_of_ne context (h.kind?_eq.trans hkind) hcondition hquery, h.status_eq]
  exact hkeeps

theorem next_of_query (h : visit.Records node input outcome) (hkind : node.kind? = some .query)
    (hskipped : outcome.status ≠ .skipped)
    (hkeeps : outcome.Keeps (context.withQueryResult node.id outcome.output)) :
    outcome.next = visit.handedOn? context := by
  rw [visit.handedOn?_query context (h.kind?_eq.trans hkind), h.status_eq, h.node_eq, h.output_eq]
  cases hstatus : outcome.status with
  | skipped => exact absurd hstatus hskipped
  | completed => simpa [Outcome.Keeps, hstatus] using hkeeps
  | failed => simpa [Outcome.Keeps, hstatus] using hkeeps

end Visit.Records

namespace Node

variable (services : Services σ) (run : Run)

/-- A condition shows whether it handed its context on. -/
theorem next_runCondition (settings : ConditionSettings) (context : Context) :
    (runCondition services settings context).next =
      if (runCondition services settings context).status ≠ .failed ∧
          (runCondition services settings context).output.field? "passed" = some (.bool true)
      then some context else none := by
  unfold runCondition
  have hother : compare "passed" "evaluation_result" ≠ .eq := by decide
  split
  · simp [Outcome.failed, Outcome.failedWith]
  · simp [Json.object, Json.field?, Json.obj?, SortedMap.ofList, hother]

theorem handOver_keeps (target : CommandTarget) (payload : Object) (context : Context) :
    (handOver services target payload context).Yields (Outcome.Keeps context) := by
  refine .bind (.any _) fun time _ => ?_
  refine .bind (.any _) fun answer _ => ?_
  apply Action.Yields.pure
  cases answer with
  | error error => rfl
  | ok log =>
    unfold answerOutcome commandOutcome
    dsimp only
    split <;> rfl

theorem runCommand_keeps (settings : CommandSettings) (context : Context) :
    (runCommand services run settings context).Yields (Outcome.Keeps context) := by
  rcases runCommand_cases services.catalog run settings context with
    ⟨fault, hfails⟩ | ⟨target, payload, -, hsends⟩
  · rw [hfails σ services rfl]
    exact .pure rfl
  · rw [hsends σ services rfl]
    exact handOver_keeps services target payload context

/-- A query that is executed adds its result to the context, and one that fails ends the branch. -/
theorem runQuery_next (query : QueryService σ) (node : Node) (context : Context) :
    (runQuery query run node context).Yields fun outcome =>
      outcome.status ≠ .skipped ∧ outcome.Keeps (context.withQueryResult node.id outcome.output) := by
  unfold runQuery
  split
  · exact .pure ⟨nofun, rfl⟩
  · refine .bind (.any _) fun answer _ => ?_
    cases answer with
    | error error => exact .pure ⟨nofun, rfl⟩
    | ok result => exact .pure ⟨nofun, rfl⟩

/-- A query is completed only with a result that the service gave it. -/
theorem execute_answers (node : Node) (kind : NodeKind) (context : Context) :
    (node.execute services run kind context).Yields fun outcome =>
      kind = .query → outcome.status = .completed → node.Answers services run context outcome.output := by
  by_cases hkind : kind = .query
  · subst hkind
    rw [execute]
    cases hservice : services.query with
    | none =>
      refine .pure fun _ hcompleted => ?_
      cases hcompleted
    | some query =>
      dsimp only
      unfold runQuery
      split
      · refine .pure fun _ hcompleted => ?_
        cases hcompleted
      · next settings hsettings =>
        refine .bind (.outside _) fun answer hanswer => ?_
        obtain ⟨outside, hanswer⟩ := hanswer
        cases answer with
        | error error =>
          refine .pure fun _ hcompleted => ?_
          cases hcompleted
        | ok result => exact .pure fun _ _ => ⟨query, settings, outside, hservice, hsettings, hanswer⟩
  · exact (Action.Yields.any _).mono fun _ _ h => absurd h hkind

variable (deliver : AlertMessage → Json → σ → Except AlertError Json × σ)

theorem sendAlert_keeps (key : String) (cooldown : Cooldown) (message : AlertMessage) (template : Json)
    (context : Context) :
    (sendAlert deliver key cooldown message template context).Yields (Outcome.Keeps context) := by
  unfold sendAlert
  refine .bind (.any _) fun claimed _ => ?_
  cases claimed with
  | false => exact .pure rfl
  | true =>
    refine .bind (.any _) fun answer _ => ?_
    cases answer with
    | error error =>
      refine .bind (.any _) fun _ _ => ?_
      exact .pure rfl
    | ok receipt => exact .pure rfl

theorem Unsent.keeps {context : Context} {outcome : Outcome} (h : Unsent context outcome) :
    outcome.Keeps context := by
  cases h <;> rfl

theorem runAlert_keeps (node : Node) (context : Context) :
    (runAlert services deliver run node context).Yields (Outcome.Keeps context) := by
  rcases runAlert_cases services.defaultCooldown run node context with
    ⟨outcome, hunsent, hends⟩ | ⟨message, template, hsends⟩
  · rw [hends σ services deliver rfl]
    exact .pure hunsent.keeps
  · rw [hsends σ services deliver rfl]
    exact sendAlert_keeps deliver _ _ _ _ _

/-- What a node hands on is seen in its visit. -/
theorem execute_handsOn {node : Node} {kind : NodeKind} (hkind : node.kind? = some kind)
    (context : Context) :
    (node.execute services run kind context).Yields fun outcome =>
      ∀ (visit : Visit) (input : Json), visit.Records node input outcome →
        outcome.next = visit.handedOn? context := by
  have hkeeps : ∀ outcome : Outcome, outcome.Keeps context → kind ≠ .condition → kind ≠ .query →
      ∀ (visit : Visit) (input : Json), visit.Records node input outcome →
        outcome.next = visit.handedOn? context :=
    fun outcome h hcondition hquery visit input hrecords =>
      hrecords.next_of_keeps hkind hcondition hquery h
  cases kind with
  | telemetryTrigger => exact .pure (hkeeps _ rfl (by decide) (by decide))
  | scheduleTrigger => exact .pure (hkeeps _ rfl (by decide) (by decide))
  | other name => exact .pure (hkeeps _ rfl (by simp) (by simp))
  | command =>
    rw [execute]
    exact (runCommand_keeps services run node.commandSettings context).mono fun outcome h =>
      hkeeps outcome h (by decide) (by decide)
  | alert =>
    rw [execute]
    cases services.deliver with
    | none => exact .pure (hkeeps _ rfl (by decide) (by decide))
    | some deliver =>
      exact (runAlert_keeps services run deliver node context).mono fun outcome h =>
        hkeeps outcome h (by decide) (by decide)
  | condition =>
    apply Action.Yields.pure
    intro visit input hrecords
    rw [visit.handedOn?_condition context (hrecords.kind?_eq.trans hkind), hrecords.status_eq,
      hrecords.output_eq]
    exact next_runCondition services _ context
  | query =>
    rw [execute]
    cases services.query with
    | none =>
      -- a query that nobody executes is skipped like any other node
      apply Action.Yields.pure
      intro visit input hrecords
      rw [visit.handedOn?_query context (hrecords.kind?_eq.trans hkind), hrecords.status_eq]
      rfl
    | some query =>
      refine (runQuery_next run query node context).mono ?_
      rintro outcome ⟨hskipped, hnext⟩ visit input hrecords
      exact hrecords.next_of_query hkind hskipped hnext

end Node

end TelemetryAutomation
