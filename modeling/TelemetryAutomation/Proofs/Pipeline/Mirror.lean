import TelemetryAutomation.Proofs.Pipeline.Calls

/-!
# The index mirrors the live versions

On stores that do not fail, the rows of the index are those that were compiled when the active versions were
last published. What a pipeline relies on may change between calls, so these need not be the rows that would
be compiled now.
-/

namespace TelemetryAutomation

open Pipeline (Publication Mirrors ownerIn)

variable {σ : Type}

/-! ## Last publications -/

/-- What a call publishes, and on which pipeline, if it succeeds. -/
def Call.published? (state : PipelineState σ) : Call σ → Option (Pipeline σ × Publication)
  | .publish pipeline publication =>
    match (pipeline.publish publication.workflow publication.version state).1 with
    | .ok _ => some (pipeline, publication)
    | .error _ => none
  | .handle _ _ => none

/-- The last successful publication of a version in a history. -/
def lastPublished? (id : Key .workflowVersion) :
    PipelineState σ → List (Call σ) → Option (Pipeline σ × Publication)
  | _, [] => none
  | state, call :: rest =>
    (lastPublished? id (call.after state) rest).or
      ((call.published? state).filter (·.2.version.id = id))

theorem lastPublished?_append_singleton (id : Key .workflowVersion) (state : PipelineState σ)
    (calls : List (Call σ)) (call : Call σ) :
    lastPublished? id state (calls ++ [call]) =
      ((call.published? (state.afterCalls calls)).filter (·.2.version.id = id)).or
        (lastPublished? id state calls) := by
  induction calls generalizing state with
  | nil =>
    show Option.or none _ = Option.or _ none
    rw [Option.none_or, Option.or_none]
    rfl
  | cons first rest ih =>
    rw [List.cons_append, lastPublished?, ih, lastPublished?, Option.or_assoc]
    rfl

/-- The rows of a version that were compiled when it was last published. -/
structure LastCompiled (start : PipelineState σ) (calls : List (Call σ)) (workflow : Workflow)
    (version : WorkflowVersion) (rows : List TriggerRow) (pipeline : Pipeline σ)
    (published : Workflow) (graph : Graph) : Prop where
  last_eq : lastPublished? version.id start calls = some (pipeline, ⟨published, version⟩)
  workflow_eq : workflow = { published with activeVersion := some version.id }
  graph_eq : pipeline.checkedGraph published version = .ok graph
  compiled : Trigger.Compiled pipeline.services.catalog published.organization version.id graph rows

/-- The entries of the index after a history. -/
def IsLastCompiled (start : PipelineState σ) (calls : List (Call σ)) (workflow : Workflow)
    (version : WorkflowVersion) (rows : List TriggerRow) : Prop :=
  ∃ pipeline published graph,
    LastCompiled start calls workflow version rows pipeline published graph

namespace LastCompiled

variable {start : PipelineState σ} {calls : List (Call σ)} {call : Call σ} {workflow : Workflow}
  {version : WorkflowVersion} {rows : List TriggerRow}

/-- What was compiled last stays so until the version is published again. -/
theorem append_singleton (h : IsLastCompiled start calls workflow version rows)
    (hcall : ∀ pipeline publication,
      call.published? (start.afterCalls calls) = some (pipeline, publication) →
        version.id ≠ publication.version.id) :
    IsLastCompiled start (calls ++ [call]) workflow version rows := by
  obtain ⟨pipeline, published, graph, h⟩ := h
  refine ⟨pipeline, published, graph, ?_, h.workflow_eq, h.graph_eq, h.compiled⟩
  have hnone : (call.published? (start.afterCalls calls)).filter (·.2.version.id = version.id) =
      none := by
    rw [Option.filter_eq_none_iff]
    rintro ⟨pipeline', publication⟩ hpublished
    simpa using (hcall pipeline' publication hpublished).symm
  rw [lastPublished?_append_singleton, hnone, Option.none_or, h.last_eq]

theorem append_of_none (h : IsLastCompiled start calls workflow version rows)
    (hcall : call.published? (start.afterCalls calls) = none) :
    IsLastCompiled start (calls ++ [call]) workflow version rows := by
  refine append_singleton h fun pipeline publication hpublished => ?_
  rw [hcall] at hpublished
  cases hpublished

end LastCompiled

/-! ## Histories on reliable stores -/

variable {start : PipelineState σ} {calls : List (Call σ)}

namespace Call

theorem published?_of_error {pipeline : Pipeline σ} {publication : Publication}
    {state after : PipelineState σ} {error : PipelineError}
    (h : pipeline.publish publication.workflow publication.version state = (.error error, after)) :
    (Call.publish pipeline publication).published? state = none := by
  rw [published?, h]

theorem published?_of_ok {pipeline : Pipeline σ} {publication : Publication}
    {state after : PipelineState σ} {outcome : PublishOutcome}
    (h : pipeline.publish publication.workflow publication.version state = (.ok outcome, after)) :
    (Call.publish pipeline publication).published? state = some (pipeline, publication) := by
  rw [published?, h]

end Call

namespace Pipeline

section

variable {owner : Key .workflowVersion → Option (Key .workflow)}
  (h : Mirrors owner (IsLastCompiled start calls) (start.afterCalls calls).tables)
include h

theorem Mirrors.handle (pipeline : Pipeline σ) (record : TelemetryRecord) :
    Mirrors owner (IsLastCompiled start (calls ++ [.handle pipeline record]))
      ((Call.handle pipeline record).after (start.afterCalls calls)).tables := by
  rw [(Call.holds_handle pipeline record _).tables_eq]
  exact h.mono fun hentry => LastCompiled.append_of_none hentry rfl

/-- A publication that is accepted replaces the entry of its version, and one that is refused nothing. -/
theorem Mirrors.publish (hreliable : (start.afterCalls calls).Reliable) (pipeline : Pipeline σ)
    {publication : Publication} (hof : publication.version.workflow = publication.workflow.id)
    (howner : owner publication.version.id = some publication.workflow.id) :
    Mirrors owner (IsLastCompiled start (calls ++ [.publish pipeline publication]))
      ((Call.publish pipeline publication).after (start.afterCalls calls)).tables := by
  cases hgraph : pipeline.checkedGraph publication.workflow publication.version with
  | error error =>
    have hrefused : pipeline.publish publication.workflow publication.version
        (start.afterCalls calls) = (.error error, start.afterCalls calls) :=
      Pipeline.publish_of_error hgraph
    rw [Call.after_publish hrefused]
    exact h.mono fun hentry =>
      LastCompiled.append_of_none hentry (Call.published?_of_error hrefused)
  | ok graph =>
    obtain ⟨-, -, hnodes⟩ := Pipeline.checkedGraph_eq_ok.mp hgraph
    obtain ⟨rows, hrows⟩ := Trigger.exists_rows hnodes publication.version.id
    obtain ⟨outcome, after, hpublish, hpublishes⟩ :=
      Pipeline.publish_of_ok hreliable.workflows hreliable.index hof hgraph hrows
    have haccepts : pipeline.Accepts publication.workflow publication.version rows :=
      ⟨graph, hgraph, hrows⟩
    have hpublished := Call.published?_of_ok hpublish
    rw [Call.after_publish hpublish]
    refine h.publishes hpublishes hof howner (fun row hrow => (haccepts.of_mem_rows hrow).2) ?_ ?_
    · intro stored other rows hne hentry
      refine LastCompiled.append_singleton hentry ?_
      rw [hpublished]
      rintro _ _ ⟨⟩
      exact hne
    · refine ⟨pipeline, publication.workflow, graph, ?_, rfl, hgraph,
        Trigger.compiled_of_rows hrows⟩
      rw [lastPublished?_append_singleton, hpublished, Option.filter_some,
        if_pos (decide_eq_true rfl), Option.some_or]

end

/-- After any history on reliable stores the entries of the index are those that were compiled last. -/
theorem mirrors_afterCalls {owner : Key .workflowVersion → Option (Key .workflow)}
    (hstart : start.tables = .empty) (hreliable : start.Reliable) (calls : List (Call σ))
    (hof : ∀ p ∈ publications calls, p.version.workflow = p.workflow.id)
    (howner : ∀ p ∈ publications calls, owner p.version.id = some p.workflow.id) :
    Mirrors owner (IsLastCompiled start calls) (start.afterCalls calls).tables := by
  induction calls using List.reverseRecOn with
  | nil =>
    have htables : (start.afterCalls []).tables = .empty := hstart
    rw [htables]
    exact ⟨nofun, nofun, nofun⟩
  | append_singleton calls call ih =>
    rw [publications_append, List.forall_mem_append] at hof howner
    have hcalls := ih hof.1 howner.1
    rw [start.afterCalls_append_singleton]
    cases call with
    | handle pipeline record => exact hcalls.handle pipeline record
    | publish pipeline publication =>
      exact hcalls.publish (hreliable.afterCalls calls) pipeline
        (hof.2 publication List.mem_cons_self) (howner.2 publication List.mem_cons_self)

/-- On reliable stores a publication fails only if the version is refused. -/
theorem isRefusal_of_reliable {pipeline : Pipeline σ} {workflow : Workflow}
    {version : WorkflowVersion} {state after : PipelineState σ} {error : PipelineError}
    (hreliable : state.Reliable) (hof : version.workflow = workflow.id)
    (h : pipeline.publish workflow version state = (.error error, after)) :
    error.IsRefusal ∧ after = state := by
  cases hgraph : pipeline.checkedGraph workflow version with
  | error cause =>
    rw [publish_of_error hgraph] at h
    cases h
    exact ⟨isRefusal_of_checkedGraph hgraph, rfl⟩
  | ok graph =>
    obtain ⟨-, -, hnodes⟩ := checkedGraph_eq_ok.mp hgraph
    obtain ⟨rows, hrows⟩ := Trigger.exists_rows hnodes version.id
    obtain ⟨outcome, after', hpublish, -⟩ :=
      publish_of_ok hreliable.workflows hreliable.index hof hgraph hrows
    rw [hpublish] at h
    cases h

/-- What holds of the index after a history. -/
structure MirrorsLive (start : PipelineState σ) (calls : List (Call σ)) : Prop where
  /-- The active version of a stored workflow is stored and belongs to it, and the index holds the rows
  that were compiled when it was last published. -/
  active : ∀ key workflow,
    (start.afterCalls calls).workflows.workflows.get? key = some workflow →
      workflow.id = key ∧ ∃ version, workflow.activeVersion = some version.id ∧
        (start.afterCalls calls).workflows.versions.get? version.id = some version ∧
        version.workflow = key ∧
        ∃ rows pipeline published graph,
          LastCompiled start calls workflow version rows pipeline published graph ∧
            (start.afterCalls calls).index.rows.filter (·.workflowVersion = version.id) = rows
  /-- There are no rows of other versions. -/
  listed : ∀ row ∈ (start.afterCalls calls).index.rows, ∃ key workflow,
    (start.afterCalls calls).workflows.workflows.get? key = some workflow ∧
      workflow.activeVersion = some row.workflowVersion
  /-- A publication that fails now is refused and leaves everything as it is. -/
  refused : ∀ (pipeline : Pipeline σ) workflow version error after, version.workflow = workflow.id →
    pipeline.publish workflow version (start.afterCalls calls) = (.error error, after) →
      error.IsRefusal ∧ after = start.afterCalls calls

/-- **The index mirrors the live versions.** After any history of calls on reliable stores, each with a
pipeline of its own, the rows of the index are those that were compiled when the active versions of the stored
workflows were last published, and the next publication succeeds or changes nothing. -/
theorem index_mirrorsLive (hstart : start.tables = .empty) (hreliable : start.Reliable)
    (howned : Owned (publications calls)) : MirrorsLive start calls := by
  have h := mirrors_afterCalls hstart hreliable calls howned.of_eq (ownerIn_eq howned.owner_eq)
  refine ⟨?_, h.listed, ?_⟩
  · intro key workflow hworkflow
    obtain ⟨version, hactive, hversion, hkey, -, pipeline, published, graph, hcompiled⟩ :=
      h.active hworkflow
    exact ⟨h.id_eq hworkflow, version, hactive, hversion, hkey, _, pipeline, published, graph,
      hcompiled, rfl⟩
  · intro pipeline workflow version error after hof herror
    exact isRefusal_of_reliable (hreliable.afterCalls calls) hof herror

theorem index_mirrorsSample :
    (PipelineState.new Sample.world).tables = .empty ∧ (PipelineState.new Sample.world).Reliable ∧
      Owned (publications Sample.calls) ∧ MirrorsLive (.new Sample.world) Sample.calls := by
  have hreliable : (PipelineState.new Sample.world).Reliable :=
    ⟨WorkflowStore.reliable_empty, Outages.reliable_none⟩
  exact ⟨rfl, hreliable, Sample.owned_calls, index_mirrorsLive rfl hreliable Sample.owned_calls⟩

end Pipeline

end TelemetryAutomation
