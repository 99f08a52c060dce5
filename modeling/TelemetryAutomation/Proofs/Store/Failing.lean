import TelemetryAutomation.Proofs.Ending
import TelemetryAutomation.Proofs.SortedMap
import TelemetryAutomation.Proofs.Store.Reliable
import TelemetryAutomation.Store.Runs

/-!
# Stores that may fail

Any call of a store may fail. A call that fails changes no table, and one that succeeds changes the tables
as its name says. Which calls fail does not matter here, so nothing is assumed of the outages. In either
case a call is counted, and stores that differ in nothing else are said to agree.
-/

namespace TelemetryAutomation

namespace Outages

variable {call : Type}

/-- What is planned does not change. -/
theorem plan_next (outages : Outages call) (c : call) : (outages.next c).2.plan = outages.plan :=
  rfl

theorem Reliable.of_plan_eq {before after : Outages call} (h : before.Reliable)
    (hplan : after.plan = before.plan) : after.Reliable := by
  intro c n
  rw [hplan]
  exact h c n

end Outages

namespace WorkflowStore

/-- The stores are the same but for the number of calls. -/
structure Agrees (before after : WorkflowStore) : Prop where
  workflows_eq : after.workflows = before.workflows
  versions_eq : after.versions = before.versions
  lags_eq : after.lags = before.lags
  plan_eq : after.outages.plan = before.outages.plan

theorem Agrees.refl (store : WorkflowStore) : Agrees store store := ⟨rfl, rfl, rfl, rfl⟩

theorem Agrees.trans {first second third : WorkflowStore} (h : Agrees first second)
    (h' : Agrees second third) : Agrees first third :=
  ⟨h'.workflows_eq.trans h.workflows_eq, h'.versions_eq.trans h.versions_eq,
    h'.lags_eq.trans h.lags_eq, h'.plan_eq.trans h.plan_eq⟩

variable (store : WorkflowStore)

theorem call_ends (c : WorkflowCall) :
    Ends (call c) store (fun _ => Agrees store)
      fun _ after => Agrees store after ∧ ¬ store.outages.Reliable := by
  have hplan := store.outages.plan_next c
  rcases hnext : store.outages.next c with ⟨failure, outages⟩
  rw [hnext] at hplan
  cases failure with
  | none =>
    have hcall : call c store = (.ok (), { store with outages }) := by
      rw [call, hnext]
    exact .of_ok hcall ⟨rfl, rfl, rfl, hplan⟩
  | some reason =>
    have hcall : call c store = (.error (.storage reason), { store with outages }) := by
      rw [call, hnext]
    refine .of_error hcall ⟨⟨rfl, rfl, rfl, hplan⟩, ?_⟩
    intro hreliable
    rw [hreliable.next] at hnext
    cases hnext

theorem workflow?_ends (id : Key .workflow) :
    Ends (workflow? id) store
      (fun found after => Agrees store after ∧
        found = if store.lags then none else store.workflows.get? id)
      fun _ after => Agrees store after ∧ ¬ store.outages.Reliable := by
  apply (call_ends store .workflow).bind
  intro _ after hafter
  refine .of_ok rfl ⟨hafter, ?_⟩
  rw [hafter.lags_eq, hafter.workflows_eq]

theorem version?_ends (id : Key .workflowVersion) :
    Ends (version? id) store
      (fun found after => Agrees store after ∧ found = store.versions.get? id)
      fun _ after => Agrees store after ∧ ¬ store.outages.Reliable := by
  apply (call_ends store .version).bind
  intro _ after hafter
  exact .of_ok rfl ⟨hafter, by rw [hafter.versions_eq]⟩

theorem saveWorkflow_ends (workflow : Workflow) :
    Ends (saveWorkflow workflow) store
      (fun _ => Agrees { store with workflows := store.workflows.insert workflow.id workflow })
      fun _ => Agrees store := by
  refine (call_ends store .saveWorkflow).bind_mono ?_ fun _ _ hfailed => hfailed.1
  intro _ after hafter
  refine .of_ok rfl ⟨?_, hafter.versions_eq, hafter.lags_eq, hafter.plan_eq⟩
  show after.workflows.insert workflow.id workflow = _
  rw [hafter.workflows_eq]

theorem saveVersion_ends (version : WorkflowVersion) :
    Ends (saveVersion version) store
      (fun _ => Agrees { store with versions := store.versions.insert version.id version })
      fun _ => Agrees store := by
  refine (call_ends store .saveVersion).bind_mono ?_ fun _ _ hfailed => hfailed.1
  intro _ after hafter
  apply Ends.get_bind
  apply Ends.require
  · intro _
    refine .of_ok rfl ⟨hafter.workflows_eq, ?_, hafter.lags_eq, hafter.plan_eq⟩
    show after.versions.insert version.id version = _
    rw [hafter.versions_eq]
  · intro _
    exact hafter

end WorkflowStore

namespace TriggerIndex

/-- The indexes are the same but for the number of calls. -/
structure Agrees (before after : TriggerIndex) : Prop where
  rows_eq : after.rows = before.rows
  plan_eq : after.outages.plan = before.outages.plan

theorem Agrees.refl (index : TriggerIndex) : Agrees index index := ⟨rfl, rfl⟩

theorem Agrees.trans {first second third : TriggerIndex} (h : Agrees first second)
    (h' : Agrees second third) : Agrees first third :=
  ⟨h'.rows_eq.trans h.rows_eq, h'.plan_eq.trans h.plan_eq⟩

/-- A call has failed: the index says why and is as it was. -/
structure Refuses (before : TriggerIndex) (error : TriggerIndexError) (after : TriggerIndex) : Prop where
  store : ∃ reason, error = .store reason
  agrees : before.Agrees after
  unreliable : ¬ before.outages.Reliable

variable (index : TriggerIndex)

theorem call_ends (c : IndexCall) :
    Ends (call c) index (fun _ => Agrees index) index.Refuses := by
  have hplan := index.outages.plan_next c
  rcases hnext : index.outages.next c with ⟨failure, outages⟩
  rw [hnext] at hplan
  cases failure with
  | none =>
    have hcall : call c index = (.ok (), { index with outages }) := by
      rw [call, hnext]
    exact .of_ok hcall ⟨rfl, hplan⟩
  | some reason =>
    have hcall : call c index = (.error (.store reason), { index with outages }) := by
      rw [call, hnext]
    refine .of_error hcall ⟨⟨reason, rfl⟩, ⟨rfl, hplan⟩, ?_⟩
    intro hreliable
    rw [hreliable.next] at hnext
    cases hnext

theorem delete_ends (version : Key .workflowVersion) :
    Ends (delete version) index
      (fun deleted after => deleted = (index.rows.filter (·.workflowVersion = version)).length ∧
        Agrees { index with rows := index.rows.filter (·.workflowVersion ≠ version) } after)
      index.Refuses := by
  apply (call_ends index .delete).bind
  intro _ after hafter
  have hcount : index.rows.length - (index.rows.filter (·.workflowVersion ≠ version)).length =
      (index.rows.filter (·.workflowVersion = version)).length := by
    have hlength := List.length_eq_length_filter_add (l := index.rows) (·.workflowVersion = version)
    simp only [ne_eq, decide_not]
    omega
  rw [← hafter.rows_eq] at hcount ⊢
  exact .of_ok rfl ⟨hcount, rfl, hafter.plan_eq⟩

theorem insert_ends (rows : List TriggerRow) :
    Ends (insert rows) index
      (fun inserted after => inserted = rows.length ∧
        Agrees { index with rows := index.rows ++ rows } after)
      index.Refuses := by
  apply (call_ends index .insert).bind
  intro _ after hafter
  rw [← hafter.rows_eq]
  exact .of_ok rfl ⟨rfl, rfl, hafter.plan_eq⟩

theorem candidates_ends (scope : TelemetryScope) :
    Ends (candidates scope) index
      (fun found after => Agrees index after ∧ found = index.rows.filter (·.covers scope))
      index.Refuses := by
  apply (call_ends index .candidates).bind
  intro _ after hafter
  rw [← hafter.rows_eq]
  exact .of_ok rfl ⟨hafter, rfl⟩

end TriggerIndex

namespace RunStore

/-- The stores are the same but for the number of calls. -/
structure Agrees (before after : RunStore) : Prop where
  nextId_eq : after.nextId = before.nextId
  runs_eq : after.runs = before.runs
  steps_eq : after.steps = before.steps
  plan_eq : after.outages.plan = before.outages.plan

theorem Agrees.trans {first second third : RunStore} (h : Agrees first second)
    (h' : Agrees second third) : Agrees first third :=
  ⟨h'.nextId_eq.trans h.nextId_eq, h'.runs_eq.trans h.runs_eq, h'.steps_eq.trans h.steps_eq,
    h'.plan_eq.trans h.plan_eq⟩

/-- The store with a new run under the next key. -/
def opened (store : RunStore) (run : Run) : RunStore :=
  { store with nextId := store.nextId + 1, runs := store.runs.insert run.id run }

theorem contains_opened (store : RunStore) (run : Run) : (store.opened run).runs.contains run.id := by
  show ((store.runs.insert run.id run).get? run.id).isSome
  rw [SortedMap.get?_insert_self]
  rfl

/-- The store with a run that has ended and its steps. -/
def closed (store : RunStore) (run : Run) (steps : List RunStep) : RunStore :=
  { store with
    runs := store.runs.insert run.id run
    steps := store.steps.insert run.id ((store.steps.get? run.id).getD [] ++ steps) }

/-- A run that has ended takes the place of what was started. -/
theorem runs_closed_opened (store : RunStore) {started run : Run} (hid : run.id = started.id)
    (steps : List RunStep) :
    ((store.opened started).closed run steps).runs = store.runs.insert run.id run := by
  show (store.runs.insert started.id started).insert run.id run = _
  rw [hid, SortedMap.insert_insert]

theorem Agrees.closed {before after : RunStore} (h : Agrees before after) (run : Run)
    (steps : List RunStep) : Agrees (before.closed run steps) (after.closed run steps) := by
  refine ⟨h.nextId_eq, ?_, ?_, h.plan_eq⟩
  · show after.runs.insert _ _ = before.runs.insert _ _
    rw [h.runs_eq]
  · show after.steps.insert _ _ = before.steps.insert _ _
    rw [h.steps_eq]

variable (store : RunStore)

theorem call_ends (c : RunCall) :
    Ends (call c) store (fun _ => Agrees store)
      fun _ after => store.Agrees after ∧ ¬ store.outages.Reliable := by
  have hplan := store.outages.plan_next c
  rcases hnext : store.outages.next c with ⟨failure, outages⟩
  rw [hnext] at hplan
  cases failure with
  | none =>
    have hcall : call c store = (.ok (), { store with outages }) := by
      rw [call, hnext]
    exact .of_ok hcall ⟨rfl, rfl, rfl, hplan⟩
  | some reason =>
    have hcall : call c store = (.error (.storage reason), { store with outages }) := by
      rw [call, hnext]
    refine .of_error hcall ⟨⟨rfl, rfl, rfl, hplan⟩, ?_⟩
    intro hreliable
    rw [hreliable.next] at hnext
    cases hnext

/-- A new run has the next key. A store that does not fail refuses it only if the keys have run out. -/
theorem createRun_ends (draft : RunDraft) (startedAt : Timestamp) :
    Ends (createRun draft startedAt) store
      (fun run after => run = Run.start ⟨store.nextId⟩ draft startedAt ∧ 0 < store.nextId ∧
        (store.opened run).Agrees after)
      fun _ after => store.Agrees after ∧ (store.outages.Reliable → ¬ 0 < store.nextId) := by
  apply (call_ends store .createRun).bind_mono
  · intro _ after hafter
    rw [← hafter.nextId_eq]
    apply Ends.get_bind
    by_cases hkey : 0 < after.nextId
    · have hnew : Key.new? after.nextId = some (⟨after.nextId⟩ : Key .run) := if_pos hkey
      rw [hnew]
      refine .of_ok rfl ⟨rfl, hkey, ?_, ?_, hafter.steps_eq, hafter.plan_eq⟩
      · show after.nextId + 1 = store.nextId + 1
        rw [hafter.nextId_eq]
      · show after.runs.insert _ _ = store.runs.insert _ _
        rw [hafter.runs_eq]
        rfl
    · have hnew : (Key.new? after.nextId : Option (Key .run)) = none := if_neg hkey
      rw [hnew]
      exact .throw ⟨hafter, fun _ => hkey⟩
  · rintro _ after ⟨hafter, hunreliable⟩
    exact ⟨hafter, fun hreliable => absurd hreliable hunreliable⟩

/-- A store that does not fail ends every run that it has. -/
theorem finishRun_ends (run : Run) (steps : List RunStep) :
    Ends (finishRun run steps) store (fun _ => (store.closed run steps).Agrees)
      fun _ after => store.Agrees after ∧ (store.outages.Reliable → ¬ store.runs.contains run.id) := by
  apply (call_ends store .finishRun).bind_mono
  · intro _ after hafter
    apply Ends.get_bind
    apply Ends.require
    · intro _
      exact .of_ok rfl (hafter.closed run steps)
    · intro hmissing
      rw [hafter.runs_eq] at hmissing
      exact ⟨hafter, fun _ => hmissing⟩
  · rintro _ after ⟨hafter, hunreliable⟩
    exact ⟨hafter, fun hreliable => absurd hreliable hunreliable⟩

end RunStore

end TelemetryAutomation
