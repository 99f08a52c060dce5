import TelemetryAutomation.Pipeline.Basic
import TelemetryAutomation.Proofs.SortedMap

/-!
# The tables of a pipeline

What later calls find of a publication are the tables: the stored workflows and versions and the rows of
the index. They are changed by writes only, and what one write keeps is kept by any number of them.
-/

namespace TelemetryAutomation

variable {σ : Type}

/-- The stored workflows and versions and the rows of the index. -/
structure Tables where
  workflows : SortedMap (Key .workflow) Workflow
  versions : SortedMap (Key .workflowVersion) WorkflowVersion
  rows : List TriggerRow

/-- A write to the tables. -/
inductive Write
  | workflow (workflow : Workflow)
  | version (version : WorkflowVersion)
  /-- Deletes the rows of a version. -/
  | delete (version : Key .workflowVersion)
  /-- Adds rows behind those that are there. -/
  | insert (rows : List TriggerRow)

namespace Tables

/-- Tables without entries. -/
def empty : Tables := ⟨∅, ∅, []⟩

/-- The tables after a write. -/
def write (tables : Tables) : Write → Tables
  | .workflow workflow =>
    { tables with workflows := tables.workflows.insert workflow.id workflow }
  | .version version => { tables with versions := tables.versions.insert version.id version }
  | .delete version => { tables with rows := tables.rows.filter (·.workflowVersion ≠ version) }
  | .insert rows => { tables with rows := tables.rows ++ rows }

/-- The tables after some writes, one after the other. -/
def writeAll (tables : Tables) (writes : List Write) : Tables := writes.foldl write tables

variable {tables : Tables}

/-- What each of some writes keeps is kept by all of them. -/
theorem writeAll_keeps (property : Tables → Prop) {writes : List Write}
    (h : ∀ write ∈ writes, ∀ tables, property tables → property (tables.write write))
    (htables : property tables) : property (tables.writeAll writes) :=
  List.foldlRecOn writes _ htables fun tables htables write hwrite => h write hwrite tables htables

end Tables

/-- The tables of a state. -/
def PipelineState.tables (state : PipelineState σ) : Tables :=
  ⟨state.workflows.workflows, state.workflows.versions, state.index.rows⟩

end TelemetryAutomation
