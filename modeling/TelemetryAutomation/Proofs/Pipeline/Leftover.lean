import TelemetryAutomation.Proofs.Pipeline.Interrupted

/-!
# Rows that are left behind

A publication retires the rows of the version that is active when it begins. If the publication before was
interrupted, that version is the one that was to be published, and the rows of the version before it are left
behind. They are left behind in no other way: the index holds rows of active versions and of versions that
an interrupted publication replaced, and no others (`tidy_afterCalls`).
-/

namespace TelemetryAutomation

open Pipeline (Publication)

variable {σ : Type}

namespace Tables

variable {tables : Tables} {publications : List Publication} {key : Key .workflow}

/-- The stored active version of a workflow. -/
def active? (tables : Tables) (key : Key .workflow) : Option (Key .workflowVersion) :=
  (tables.workflows.get? key).bind (·.activeVersion)

/-- Every row of a version of a workflow is a row of the active version, or of one that is excused. -/
def Tidy (publications : List Publication) (key : Key .workflow)
    (excused : Key .workflowVersion → Prop) (tables : Tables) : Prop :=
  ∀ row ∈ tables.rows, ∀ p ∈ publications, p.workflow.id = key →
    p.version.id = row.workflowVersion →
      tables.active? key = some row.workflowVersion ∨ excused row.workflowVersion

theorem Tidy.mono {excused more : Key .workflowVersion → Prop}
    (h : tables.Tidy publications key excused) (hmore : ∀ id, excused id → more id) :
    tables.Tidy publications key more := by
  intro row hrow p hp hkey hid
  exact (h row hrow p hp hkey hid).imp id (hmore _)

section Writes

variable {workflow : Workflow} {version : WorkflowVersion} {rows : List TriggerRow}
  {retired : Option (Key .workflowVersion)}

theorem active?_writeAll_take {done : Nat} (hdone : 0 < done) :
    (tables.writeAll ((Pipeline.writes workflow version rows retired).take done)).active?
      workflow.id = some version.id := by
  rw [active?, get?_workflows_writeAll_take hdone]
  rfl

theorem active?_writeAll_take_of_ne (done : Nat) (hne : key ≠ workflow.id) :
    (tables.writeAll ((Pipeline.writes workflow version rows retired).take done)).active? key =
      tables.active? key := by
  rcases Nat.eq_zero_or_pos done with rfl | hdone
  · rfl
  · rw [active?, workflows_writeAll_take hdone, SortedMap.get?_insert_of_ne hne]
    rfl

/-- A row was there before, or the publication has got as far as to insert it. -/
theorem mem_rows_writeAll_take {done : Nat} {row : TriggerRow}
    (hrow : row ∈ (tables.writeAll
      ((Pipeline.writes workflow version rows retired).take done)).rows) :
    row ∈ tables.rows ∨ 0 < done ∧ row ∈ rows := by
  rcases Nat.eq_zero_or_pos done with rfl | hdone
  · exact .inl hrow
  have hwrites : ∀ write ∈ (Pipeline.writes workflow version rows retired).take done,
      ∀ others : Tables, (∀ row ∈ others.rows, row ∈ tables.rows ∨ row ∈ rows) →
        ∀ row ∈ (others.write write).rows, row ∈ tables.rows ∨ row ∈ rows := by
    intro write hwrite others hothers row hrow
    cases write with
    | workflow other => exact hothers row hrow
    | version other => exact hothers row hrow
    | delete other => exact hothers row (List.mem_of_mem_filter hrow)
    | insert inserted =>
      have hmem := List.mem_of_mem_take hwrite
      simp only [Pipeline.writes, List.mem_append, List.mem_cons, List.mem_map, reduceCtorEq,
        Write.insert.injEq, false_or, List.not_mem_nil, or_false, and_false, exists_false] at hmem
      rcases List.mem_append.mp hrow with hold | hnew
      · exact hothers row hold
      · exact .inr (hmem ▸ hnew)
  have hkept := writeAll_keeps (fun others => ∀ row ∈ others.rows, row ∈ tables.rows ∨ row ∈ rows)
    hwrites fun _ => .inl
  exact (hkept row hrow).imp_right fun hnew => ⟨hdone, hnew⟩

theorem rows_writeAll :
    (tables.writeAll (Pipeline.writes workflow version rows retired)).rows =
      (tables.rows.filter (·.workflowVersion ≠ version.id) ++ rows).filter
        fun row => retired ≠ some row.workflowVersion := by
  cases retired with
  | none => simp [Pipeline.writes, writeAll, write]
  | some previous =>
    show List.filter _ _ = _
    apply List.filter_congr
    intro row _
    simp [eq_comm]

end Writes

end Tables

namespace Pipeline

variable {published : List Publication} {key : Key .workflow}
  {excused : Key .workflowVersion → Prop} {publication : Publication}
  {pipeline : Pipeline σ} {before after : PipelineState σ} {rows : List TriggerRow}

/-- A publication for another workflow leaves nothing behind of this one. -/
theorem Wrote.tidy_of_ne {retired : Option (Key .workflowVersion)} {done : Nat}
    (h : Wrote before ((writes publication.workflow publication.version rows retired).take done) after)
    (hbefore : before.tables.Tidy published key excused) (howned : Owned published)
    (hmem : publication ∈ published)
    (haccepts : pipeline.Accepts publication.workflow publication.version rows)
    (hne : key ≠ publication.workflow.id) : after.tables.Tidy published key excused := by
  intro row hrow p hp hkey hid
  rw [h.holds.tables_eq] at hrow ⊢
  rw [Tables.active?_writeAll_take_of_ne done hne]
  rcases Tables.mem_rows_writeAll_take hrow with hold | ⟨-, hnew⟩
  · exact hbefore row hold p hp hkey hid
  · rw [(haccepts.of_mem_rows hnew).2] at hid
    exact absurd (hkey.symm.trans (howned.owner_eq p hp publication hmem hid)) hne

/-- A publication that is cut leaves behind the rows of the version that was active, unless it still is. -/
theorem Wrote.tidy_of_cut {retired : Option (Key .workflowVersion)} {done : Nat}
    (h : Wrote before ((writes publication.workflow publication.version rows retired).take done) after)
    (hbefore : before.tables.Tidy published publication.workflow.id excused)
    (haccepts : pipeline.Accepts publication.workflow publication.version rows)
    (hactive : ∀ id, before.tables.active? publication.workflow.id = some id →
      after.tables.active? publication.workflow.id = some id ∨ excused id) :
    after.tables.Tidy published publication.workflow.id excused := by
  intro row hrow p hp hkey hid
  rw [h.holds.tables_eq] at hrow
  rcases Tables.mem_rows_writeAll_take hrow with hold | ⟨hdone, hnew⟩
  · exact (hbefore row hold p hp hkey hid).elim (hactive _) .inr
  · left
    rw [h.holds.tables_eq, Tables.active?_writeAll_take hdone, (haccepts.of_mem_rows hnew).2]

theorem Wrote.active?_eq {retired : Option (Key .workflowVersion)} {workflow : Workflow}
    {version : WorkflowVersion} (h : Wrote before (writes workflow version rows retired) after) :
    after.tables.active? workflow.id = some version.id := by
  rw [h.holds.tables_eq, ← List.take_length (l := writes _ _ _ _)]
  exact Tables.active?_writeAll_take (by simp [writes])

/-- A publication that succeeds retires the rows of the version that was active. -/
theorem Wrote.tidy_of_published
    (h : Wrote before (writes publication.workflow publication.version rows
      (superseded? before publication.workflow.id publication.version.id)) after)
    (hbefore : before.tables.Tidy published publication.workflow.id excused)
    (haccepts : pipeline.Accepts publication.workflow publication.version rows) :
    after.tables.Tidy published publication.workflow.id excused := by
  intro row hrow p hp hkey hid
  rw [h.active?_eq]
  rw [h.holds.tables_eq, Tables.rows_writeAll, List.mem_filter, List.mem_append, List.mem_filter]
    at hrow
  obtain ⟨⟨hold, hne⟩ | hnew, hkept⟩ := hrow
  -- an old row of the version that was active would have been deleted by the last write
  · refine (hbefore row hold p hp hkey hid).imp_left fun hstored => ?_
    have hsuperseded : superseded? before publication.workflow.id publication.version.id =
        some row.workflowVersion := by
      rw [superseded?, Option.filter_eq_some_iff]
      exact ⟨hstored, hne⟩
    exact absurd hsuperseded (of_decide_eq_true hkept)
  · left
    rw [(haccepts.of_mem_rows hnew).2]

/-! ## Histories -/

variable {start : PipelineState σ}

/-- One more call leaves behind the rows of the version that was active if it replaces this version without
publishing another one. -/
theorem tidy_call (call : Call σ) (hlags : before.workflows.lags = false)
    (hbefore : before.tables.Tidy published key excused) (howned : Owned published)
    (hmem : ∀ publication, call.publication? = some publication → publication ∈ published)
    (hactive : call.published? before = none → ∀ id, before.tables.active? key = some id →
      (call.after before).tables.active? key = some id ∨ excused id) :
    (call.after before).tables.Tidy published key excused := by
  cases call with
  | handle pipeline record =>
    rw [(Call.holds_handle pipeline record before).tables_eq]
    exact hbefore
  | publish pipeline publication =>
    have hmem := hmem publication rfl
    rcases hpublish : pipeline.publish publication.workflow publication.version before with
      ⟨result, after⟩
    rw [Call.after_publish hpublish] at hactive ⊢
    cases result with
    | ok outcome =>
      obtain ⟨-, rows, haccepts, hwrote⟩ := (publish_ends before).at_ok hpublish
      by_cases hkey : key = publication.workflow.id
      · subst hkey
        rw [retired?, hlags, if_neg Bool.false_ne_true] at hwrote
        exact hwrote.tidy_of_published hbefore haccepts
      · rw [← List.take_length (l := writes _ _ _ _)] at hwrote
        exact hwrote.tidy_of_ne hbefore howned hmem haccepts hkey
    | error error =>
      -- the last write may be missing here, which is why the active version has to be excused
      rcases (publish_ends before).at_error hpublish with
        ⟨-, rfl⟩ | ⟨rows, haccepts, done, -, -, hwrote⟩
      · exact hbefore
      by_cases hkey : key = publication.workflow.id
      · subst hkey
        exact hwrote.tidy_of_cut hbefore haccepts (hactive (Call.published?_of_error hpublish))
      · exact hwrote.tidy_of_ne hbefore howned hmem haccepts hkey

/-- A call of a history found a version active and replaced it by another one, but did not publish that. -/
def Abandoned (key : Key .workflow) (start : PipelineState σ) (calls : List (Call σ))
    (version : Key .workflowVersion) : Prop :=
  ∃ earlier call later, calls = earlier ++ call :: later ∧
    call.published? (start.afterCalls earlier) = none ∧
    (start.afterCalls earlier).tables.active? key = some version ∧
    (call.after (start.afterCalls earlier)).tables.active? key ≠ some version

theorem Abandoned.append {calls : List (Call σ)} {version : Key .workflowVersion}
    (h : Abandoned key start calls version) (more : List (Call σ)) :
    Abandoned key start (calls ++ more) version := by
  obtain ⟨earlier, call, later, rfl, h⟩ := h
  exact ⟨earlier, call, later ++ more, by simp, h⟩

/-- **Only interrupted publications leave rows behind.** -/
theorem tidy_afterCalls (hstart : start.tables = .empty) (hlags : start.workflows.lags = false)
    (howned : Owned published) {calls : List (Call σ)} (hmem : publications calls ⊆ published) :
    (start.afterCalls calls).tables.Tidy published key (Abandoned key start calls) := by
  induction calls using List.reverseRecOn with
  | nil =>
    have htables : (start.afterCalls []).tables = .empty := hstart
    rw [htables]
    exact nofun
  | append_singleton calls call ih =>
    rw [publications_append, List.append_subset] at hmem
    have hbefore := (ih hmem.1).mono fun _ habandoned => habandoned.append [call]
    rw [start.afterCalls_append_singleton]
    refine tidy_call call ?_ hbefore howned ?_ ?_
    · rw [start.lags_afterCalls, hlags]
    · intro publication hpublication
      exact hmem.2 (List.mem_filterMap.mpr ⟨call, List.mem_cons_self, hpublication⟩)
    · intro hnone id hactive
      by_cases hstays : (call.after (start.afterCalls calls)).tables.active? key = some id
      · exact .inl hstays
      · exact .inr ⟨calls, call, [], rfl, hnone, hactive, hstays⟩

/-- **What a publication retires.** After a publication that succeeds, the index holds no rows of other
versions of the workflow, save those of versions that an interrupted publication replaced. Whatever else
may fail, lookups of workflows are not to lag, since the version to be retired is looked up. -/
theorem rows_ofPublished {calls : List (Call σ)} {workflow : Workflow}
    {version : WorkflowVersion} {outcome : PublishOutcome} (hstart : start.tables = .empty)
    (hlags : start.workflows.lags = false)
    (howned : Owned (publications (calls ++ [.publish pipeline ⟨workflow, version⟩])))
    (h : pipeline.publish workflow version (start.afterCalls calls) = (.ok outcome, after)) :
    ∀ row ∈ after.index.rows, ∀ p ∈ publications (calls ++ [.publish pipeline ⟨workflow, version⟩]),
      p.workflow.id = workflow.id → p.version.id = row.workflowVersion →
        row.workflowVersion = version.id ∨
          Abandoned workflow.id start calls row.workflowVersion := by
  let call : Call σ := .publish pipeline ⟨workflow, version⟩
  have hbefore : (start.afterCalls calls).tables.Tidy (publications (calls ++ [call])) workflow.id
      (Abandoned workflow.id start calls) := by
    apply tidy_afterCalls hstart hlags howned
    rw [publications_append]
    exact List.subset_append_left _ _
  have hafter : after.tables.Tidy (publications (calls ++ [call])) workflow.id
      (Abandoned workflow.id start calls) := by
    have hcall : call.after (start.afterCalls calls) = after := Call.after_publish h
    rw [← hcall]
    refine tidy_call call ?_ hbefore howned ?_ ?_
    · rw [start.lags_afterCalls, hlags]
    · rintro _ ⟨⟩
      rw [publications_append]
      exact List.mem_append_right _ List.mem_cons_self
    · have hpublished : call.published? (start.afterCalls calls) =
          some (pipeline, ⟨workflow, version⟩) := Call.published?_of_ok h
      rw [hpublished]
      exact nofun
  obtain ⟨-, rows, -, hwrote⟩ := (publish_ends _).at_ok h
  intro row hrow p hp hkey hid
  refine (hafter row hrow p hp hkey hid).imp_left fun hactive => ?_
  exact (Option.some.inj (hwrote.active?_eq.symm.trans hactive)).symm

end Pipeline

namespace Sample

/-- The publication that was interrupted in the sample calls, made again when the index works. -/
def retry : Call Recorder := .publish pipeline ⟨workflow, successor⟩

theorem publish_retry :
    (pipeline.publish workflow successor (unsteady.afterCalls calls)).1 = .ok ⟨successor.id, 0, 1⟩ := by
  rfl

theorem owned_retry : Owned (publications (calls ++ [retry])) := by
  apply owned_calls.of_subset
  rw [publications_append]
  refine List.append_subset.mpr ⟨List.Subset.refl _, ?_⟩
  have hlast : (⟨workflow, successor⟩ : Publication) ∈ history := List.mem_of_getLast? rfl
  exact List.cons_subset.mpr ⟨hlast, List.nil_subset _⟩

end Sample

namespace Pipeline

theorem rows_retry :
    Sample.unsteady.tables = .empty ∧ Sample.unsteady.workflows.lags = false ∧
      Owned (publications (Sample.calls ++ [Sample.retry])) ∧ ∃ outcome after,
        Sample.pipeline.publish Sample.workflow Sample.successor
            (Sample.unsteady.afterCalls Sample.calls) = (.ok outcome, after) ∧
        ∀ row ∈ after.index.rows, ∀ p ∈ publications (Sample.calls ++ [Sample.retry]),
          p.workflow.id = Sample.workflow.id → p.version.id = row.workflowVersion →
            row.workflowVersion = Sample.successor.id ∨
              Abandoned Sample.workflow.id Sample.unsteady Sample.calls row.workflowVersion := by
  have hpublished : Sample.pipeline.publish Sample.workflow Sample.successor
      (Sample.unsteady.afterCalls Sample.calls) = (.ok _, _) := Prod.ext Sample.publish_retry rfl
  exact ⟨rfl, rfl, Sample.owned_retry, _, _, hpublished,
    rows_ofPublished rfl rfl Sample.owned_retry hpublished⟩

/-- Publishing again after an interruption leaves the rows of the first version behind. -/
theorem rows_abandoned :
    Owned (publications (Sample.calls ++ [Sample.retry])) ∧
      (Sample.pipeline.publish Sample.workflow Sample.successor
          (Sample.unsteady.afterCalls Sample.calls)).1 = .ok ⟨Sample.successor.id, 0, 1⟩ ∧
      (Sample.versionOf Sample.nameless).workflow = Sample.workflow.id ∧
      Sample.successor.id ≠ (Sample.versionOf Sample.nameless).id ∧
      (Sample.pipeline.publish Sample.workflow Sample.successor
          (Sample.unsteady.afterCalls Sample.calls)).2.index.rows.map (·.workflowVersion) =
        [(Sample.versionOf Sample.nameless).id, Sample.successor.id] := by
  refine ⟨Sample.owned_retry, Sample.publish_retry, rfl, ?_, ?_⟩ <;> decide +kernel

end Pipeline

end TelemetryAutomation
