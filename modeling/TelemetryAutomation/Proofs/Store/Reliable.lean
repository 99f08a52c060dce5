import TelemetryAutomation.Proofs.Success
import TelemetryAutomation.Store.Workflows
import TelemetryAutomation.Trigger.Index

/-!
# Stores that do not fail

A reliable store fails at no call. Every operation on it succeeds, and apart from counting the call it
does to the tables what its name says.
-/

namespace TelemetryAutomation

open Success (run_bind_of_ok)

namespace Outages

variable {call : Type} {outages : Outages call}

/-- No call fails. -/
def Reliable (outages : Outages call) : Prop := ∀ c n, outages.plan c n = .none

/-- What is left of a plan after a call. -/
def counted (outages : Outages call) : Outages call := { outages with calls := outages.calls + 1 }

theorem reliable_none : (none : Outages call).Reliable := fun _ _ => rfl

theorem Reliable.counted (h : outages.Reliable) : outages.counted.Reliable := h

theorem Reliable.next (h : outages.Reliable) (c : call) :
    outages.next c = (.none, outages.counted) := by
  rw [Outages.next, h]
  rfl

end Outages

namespace WorkflowStore

variable {store : WorkflowStore}

/-- The store answers from its tables. -/
structure Reliable (store : WorkflowStore) : Prop where
  current : store.lags = false
  outages : store.outages.Reliable

/-- The store after a call that changes no table. -/
def counted (store : WorkflowStore) : WorkflowStore :=
  { store with outages := store.outages.counted }

theorem reliable_empty : empty.Reliable := ⟨rfl, Outages.reliable_none⟩

theorem Reliable.counted (h : store.Reliable) : store.counted.Reliable :=
  ⟨h.current, h.outages.counted⟩

theorem Reliable.call (h : store.Reliable) (c : WorkflowCall) :
    call c store = (.ok (), store.counted) := by
  simp only [WorkflowStore.call, h.outages.next]
  rfl

theorem Reliable.workflow? (h : store.Reliable) (id : Key .workflow) :
    workflow? id store = (.ok (store.workflows.get? id), store.counted) := by
  have hcurrent : store.counted.lags = false := h.current
  rw [WorkflowStore.workflow?, run_bind_of_ok (h.call .workflow)]
  show (Except.ok (if store.counted.lags then none else store.workflows.get? id), store.counted) = _
  rw [hcurrent]
  rfl

theorem Reliable.saveWorkflow (h : store.Reliable) (workflow : Workflow) :
    saveWorkflow workflow store =
      (.ok (), { store.counted with
        workflows := store.workflows.insert workflow.id workflow }) := by
  rw [WorkflowStore.saveWorkflow, run_bind_of_ok (h.call .saveWorkflow)]
  rfl

/-- A version can be stored if its workflow is there. -/
theorem Reliable.saveVersion (h : store.Reliable) {version : WorkflowVersion}
    (hworkflow : store.workflows.contains version.workflow) :
    saveVersion version store =
      (.ok (), { store.counted with
        versions := store.versions.insert version.id version }) := by
  have hget : (get : WorkflowAction WorkflowStore) store.counted =
    (.ok store.counted, store.counted) := rfl
  have hcounted : store.counted.workflows.contains version.workflow := hworkflow
  rw [WorkflowStore.saveVersion, run_bind_of_ok (h.call .saveVersion), run_bind_of_ok hget,
    if_pos hcounted]
  rfl

end WorkflowStore

namespace TriggerIndex

variable {index : TriggerIndex}

/-- The index after a call that changes no row. -/
def counted (index : TriggerIndex) : TriggerIndex :=
  { index with outages := index.outages.counted }

theorem run_call (h : index.outages.Reliable) (c : IndexCall) :
    call c index = (.ok (), index.counted) := by
  simp only [call, h.next]
  rfl

theorem run_delete (h : index.outages.Reliable) (version : Key .workflowVersion) :
    ∃ deleted, delete version index =
      (.ok deleted, { index.counted with
        rows := index.rows.filter (·.workflowVersion ≠ version) }) := by
  rw [delete, run_bind_of_ok (run_call h .delete)]
  exact ⟨_, rfl⟩

theorem run_insert (h : index.outages.Reliable) (rows : List TriggerRow) :
    insert rows index =
      (.ok rows.length, { index.counted with rows := index.rows ++ rows }) := by
  rw [insert, run_bind_of_ok (run_call h .insert)]
  rfl

end TriggerIndex

end TelemetryAutomation
