import Mathlib.Data.List.Induction
import TelemetryAutomation.Proofs.Pipeline.Started
import TelemetryAutomation.Proofs.Pipeline.Telemetry

/-!
# Histories of calls

A history is a list of calls of any pipelines on one state, so that what the pipelines rely on may change
between the calls. Calls may fail, and what they have done before stays. Still everything that is found in
the tables can be attributed to a publication of the history, since a call does nothing to the tables but
some of the writes of its publication.
-/

namespace TelemetryAutomation

open Pipeline (Publication)

variable {σ : Type}

/-- A call of a pipeline. -/
inductive Call (σ : Type)
  | publish (pipeline : Pipeline σ) (publication : Publication)
  | handle (pipeline : Pipeline σ) (record : TelemetryRecord)

namespace Call

/-- The state after a call, whether it succeeded or not. -/
def after (state : PipelineState σ) : Call σ → PipelineState σ
  | .publish pipeline publication => pipeline.afterPublication state publication
  | .handle pipeline record => (pipeline.handle record state).2

theorem after_publish {pipeline : Pipeline σ} {publication : Publication}
    {state after : PipelineState σ} {result : Except PipelineError PublishOutcome}
    (h : pipeline.publish publication.workflow publication.version state = (result, after)) :
    (Call.publish pipeline publication).after state = after := by
  show (pipeline.publish publication.workflow publication.version state).2 = after
  rw [h]

/-- What a call asks to publish. -/
def publication? : Call σ → Option Publication
  | .publish _ publication => some publication
  | .handle _ _ => none

end Call

/-- The state after some calls, one after the other. -/
def PipelineState.afterCalls (state : PipelineState σ) (calls : List (Call σ)) : PipelineState σ :=
  calls.foldl Call.after state

/-- What a history asks to publish. -/
def publications (calls : List (Call σ)) : List Publication := calls.filterMap Call.publication?

theorem publications_append (calls more : List (Call σ)) :
    publications (calls ++ more) = publications calls ++ publications more :=
  List.filterMap_append

/-- Every version is published with the workflow that it names, and no version with two workflows. -/
structure Owned (publications : List Publication) : Prop where
  of_eq : ∀ p ∈ publications, p.version.workflow = p.workflow.id
  owner_eq : ∀ p ∈ publications, ∀ q ∈ publications, p.version.id = q.version.id →
    p.workflow.id = q.workflow.id

theorem Owned.of_subset {some all : List Publication} (h : Owned all) (hsubset : some ⊆ all) :
    Owned some :=
  ⟨fun p hp => h.of_eq p (hsubset hp),
    fun p hp q hq => h.owner_eq p (hsubset hp) q (hsubset hq)⟩

/-! ## Attribution -/

namespace Write

/-- A write comes from a publication: it stores what was published, or rows of it. -/
def IsOf (publication : Publication) : Write → Prop
  | .workflow stored =>
    stored = { publication.workflow with activeVersion := some publication.version.id }
  | .version stored => stored = publication.version
  | .delete _ => True
  | .insert rows => ∀ row ∈ rows, row.workflowVersion = publication.version.id ∧
      row.organization = publication.workflow.organization

theorem isOf_of_mem_writes {pipeline : Pipeline σ} {publication : Publication}
    {rows : List TriggerRow} {retired : Option (Key .workflowVersion)} {write : Write}
    (haccepts : pipeline.Accepts publication.workflow publication.version rows)
    (hwrite : write ∈ Pipeline.writes publication.workflow publication.version rows retired) :
    write.IsOf publication := by
  simp only [Pipeline.writes, List.mem_append, List.mem_cons, List.not_mem_nil, or_false,
    List.mem_map] at hwrite
  rcases hwrite with (rfl | rfl | rfl | rfl) | ⟨previous, -, rfl⟩
  · rfl
  · rfl
  · trivial
  · intro row hrow
    exact (haccepts.of_mem_rows hrow).symm
  · trivial

end Write

namespace Call

/-- A record changes no tables, even if handling it fails. -/
theorem holds_handle (pipeline : Pipeline σ) (record : TelemetryRecord) (state : PipelineState σ) :
    state.Holds state.tables ((Call.handle pipeline record).after state) := by
  have hends := (pipeline.handle_ends record state).mono (fun _ _ h => h.1.holds)
    fun _ _ h => h.holds
  exact hends.leaves

/-- **A call does to the tables only what its publication asks for**, even if it fails. -/
theorem exists_writes (call : Call σ) (state : PipelineState σ) :
    ∃ done, state.Holds (state.tables.writeAll done) (call.after state) ∧
      ∀ write ∈ done, ∃ publication, call.publication? = some publication ∧
        write.IsOf publication := by
  cases call with
  | handle pipeline record => exact ⟨[], holds_handle pipeline record state, nofun⟩
  | publish pipeline publication =>
    let written (after : PipelineState σ) : Prop :=
      ∃ done, state.Holds (state.tables.writeAll done) after ∧ ∀ write ∈ done, write.IsOf publication
    have hends : Ends (pipeline.publish publication.workflow publication.version) state
        (fun _ => written) fun _ => written := by
      apply (Pipeline.publish_ends state).mono
      · rintro outcome after ⟨-, rows, haccepts, hwrote⟩
        exact ⟨_, hwrote.holds, fun write => Write.isOf_of_mem_writes haccepts⟩
      · rintro error after (⟨-, rfl⟩ | ⟨rows, haccepts, done, -, -, hwrote⟩)
        · exact ⟨[], .refl after, nofun⟩
        · refine ⟨_, hwrote.holds, fun write hwrite => ?_⟩
          exact Write.isOf_of_mem_writes haccepts (List.mem_of_mem_take hwrite)
    obtain ⟨done, hholds, hdone⟩ := hends.leaves
    exact ⟨done, hholds, fun write hwrite => ⟨publication, rfl, hdone write hwrite⟩⟩

end Call

/-- Stores that do not fail will not fail after any calls. -/
theorem PipelineState.Reliable.afterCalls {start : PipelineState σ} (hstart : start.Reliable)
    (calls : List (Call σ)) : (start.afterCalls calls).Reliable := by
  refine List.foldlRecOn calls _ hstart fun state hstate call _ => ?_
  obtain ⟨_, hholds, -⟩ := call.exists_writes state
  exact hholds.reliable hstate

/-- No call makes the store of workflows lag. -/
theorem PipelineState.lags_afterCalls (start : PipelineState σ) (calls : List (Call σ)) :
    (start.afterCalls calls).workflows.lags = start.workflows.lags := by
  induction calls generalizing start with
  | nil => rfl
  | cons call calls ih =>
    obtain ⟨_, hholds, -⟩ := call.exists_writes start
    exact (ih _).trans hholds.lags_eq

theorem PipelineState.afterCalls_append_singleton (start : PipelineState σ) (calls : List (Call σ))
    (call : Call σ) : start.afterCalls (calls ++ [call]) = call.after (start.afterCalls calls) :=
  List.foldl_append

namespace Tables

/-- Whatever is found in the tables was published. -/
structure Attributed (publications : List Publication) (tables : Tables) : Prop where
  workflow : ∀ key workflow, tables.workflows.get? key = some workflow →
    ∃ p ∈ publications, p.workflow.id = key ∧
      workflow = { p.workflow with activeVersion := some p.version.id }
  version : ∀ id version, tables.versions.get? id = some version →
    ∃ p ∈ publications, p.version.id = id ∧ version = p.version
  row : ∀ row ∈ tables.rows, ∃ p ∈ publications, row.workflowVersion = p.version.id ∧
    row.organization = p.workflow.organization

variable {publications : List Publication} {tables : Tables}

theorem attributed_empty : empty.Attributed publications := ⟨nofun, nofun, nofun⟩

theorem Attributed.mono {more : List Publication} (h : tables.Attributed publications)
    (hsubset : publications ⊆ more) : tables.Attributed more := by
  refine ⟨?_, ?_, ?_⟩
  · intro key workflow hworkflow
    obtain ⟨p, hp, hfound⟩ := h.workflow key workflow hworkflow
    exact ⟨p, hsubset hp, hfound⟩
  · intro id version hversion
    obtain ⟨p, hp, hfound⟩ := h.version id version hversion
    exact ⟨p, hsubset hp, hfound⟩
  · intro row hrow
    obtain ⟨p, hp, hfound⟩ := h.row row hrow
    exact ⟨p, hsubset hp, hfound⟩

theorem Attributed.write (h : tables.Attributed publications) {publication : Publication}
    (hmem : publication ∈ publications) {write : Write} (hwrite : write.IsOf publication) :
    (tables.write write).Attributed publications := by
  cases write with
  | workflow workflow =>
    obtain rfl : workflow = _ := hwrite
    refine ⟨?_, h.version, h.row⟩
    exact fun key found => SortedMap.forall_get?_insert h.workflow ⟨publication, hmem, rfl, rfl⟩
  | version version =>
    obtain rfl : version = _ := hwrite
    refine ⟨h.workflow, ?_, h.row⟩
    exact fun id found => SortedMap.forall_get?_insert h.version ⟨publication, hmem, rfl, rfl⟩
  | delete version =>
    refine ⟨h.workflow, h.version, ?_⟩
    intro row hrow
    exact h.row row (List.mem_of_mem_filter hrow)
  | insert rows =>
    refine ⟨h.workflow, h.version, ?_⟩
    intro row hrow
    rcases List.mem_append.mp hrow with hold | hnew
    · exact h.row row hold
    · exact ⟨publication, hmem, hwrite row hnew⟩

end Tables

/-- **The tables hold what was published.** After any history of calls from empty tables, whichever of them
failed, every entry can be attributed to a publication of the history. -/
theorem attributed_afterCalls {start : PipelineState σ} (hstart : start.tables = .empty)
    (calls : List (Call σ)) : (start.afterCalls calls).tables.Attributed (publications calls) := by
  induction calls using List.reverseRecOn with
  | nil =>
    rw [show start.afterCalls [] = start from rfl, hstart]
    exact Tables.attributed_empty
  | append_singleton calls call ih =>
    obtain ⟨done, hholds, hdone⟩ := call.exists_writes (start.afterCalls calls)
    have hsubset : publications calls ⊆ publications (calls ++ [call]) := by
      rw [publications_append]
      exact List.subset_append_left _ _
    rw [start.afterCalls_append_singleton, hholds.tables_eq]
    apply Tables.writeAll_keeps _ _ (ih.mono hsubset)
    intro write hwrite tables htables
    obtain ⟨publication, hpublication, hof⟩ := hdone write hwrite
    refine htables.write ?_ hof
    exact List.mem_filterMap.mpr ⟨call, by simp, hpublication⟩

/-! ## An interrupted history -/

namespace Sample

/-- Empty stores, where the third call of the index is going to fail. -/
def unsteady : PipelineState Recorder :=
  { PipelineState.new world with
    index := ⟨[], 0, fun _ calls => if calls = 2 then some "unreachable" else none⟩ }

/-- The publications of the sample history as calls. The third one is accepted, but when its rows are to be
deleted the index fails. -/
def calls : List (Call Recorder) := history.map (.publish pipeline)

theorem owned_calls : Owned (publications calls) := by
  have hcalls : publications calls = history := rfl
  rw [hcalls]
  refine ⟨?_, ?_⟩
  · intro p hp
    obtain ⟨hworkflow, hof, -⟩ := of_mem_history p hp
    rw [hof, hworkflow]
  · intro p hp q hq _
    rw [(of_mem_history p hp).1, (of_mem_history q hq).1]

end Sample

end TelemetryAutomation
