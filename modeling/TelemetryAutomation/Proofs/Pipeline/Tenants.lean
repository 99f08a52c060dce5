import TelemetryAutomation.Proofs.Pipeline.Calls
import TelemetryAutomation.Proofs.Pipeline.Journal
import TelemetryAutomation.Proofs.Pipeline.Telemetry

/-!
# Organizations are kept apart

A row of the index says the organization whose telemetry it waits for, and the workflow that is run is found
through the version of the row. That both are of one organization does not follow from any single check. It
follows from where the tables come from: the row, the version and the workflow were published, and a version
belongs to one workflow and a workflow to one organization.
-/

namespace TelemetryAutomation

open Pipeline (Publication)

variable {σ : Type}

/-- Publications are owned, and no workflow is published for two organizations. -/
structure Separate (publications : List Publication) : Prop extends Owned publications where
  organization_eq : ∀ p ∈ publications, ∀ q ∈ publications, p.workflow.id = q.workflow.id →
    p.workflow.organization = q.workflow.organization

/-- A record leads only to workflows of the organization of its device. -/
theorem LeadsTo.organization_eq {publications : List Publication} {catalog : Catalog}
    {tables : Tables} {record : TelemetryRecord} {device : Device} {row : TriggerRow}
    {version : WorkflowVersion} {workflow : Workflow}
    (h : LeadsTo catalog tables record device row version workflow)
    (htables : tables.Attributed publications) (hseparate : Separate publications) :
    workflow.organization = device.organization := by
  -- the row, the version and the workflow may come from three publications
  obtain ⟨p, hp, hversion, hrow⟩ := htables.row row h.mem_rows
  obtain ⟨q, hq, hid, rfl⟩ := htables.version _ _ h.version_eq
  obtain ⟨r, hr, hworkflow, rfl⟩ := htables.workflow _ _ h.workflow_eq
  have hcovers : row.organization = device.organization := by
    have hcovers := h.covers
    simp only [TriggerRow.covers, Trigger.scopeOf, Bool.and_eq_true] at hcovers
    exact of_decide_eq_true hcovers.1.1.1
  have hrq : r.workflow.id = q.workflow.id := hworkflow.trans (hseparate.of_eq q hq)
  have hqp : q.workflow.id = p.workflow.id :=
    hseparate.owner_eq q hq p hp (hid.trans hversion)
  calc r.workflow.organization
    _ = q.workflow.organization := hseparate.organization_eq r hr q hq hrq
    _ = p.workflow.organization := hseparate.organization_eq q hq p hp hqp
    _ = row.organization := hrow.symm
    _ = device.organization := hcovers

namespace Pipeline

/-- **Organizations are kept apart.** After any history of calls from empty tables, whichever of them failed,
a record of a device of an organization starts runs of this organization only, whether it is handled to the
end or not, and a journal of the commands shows devices of this organization only.

Publications are separate as far as organizations are concerned. Nothing is asked of the catalogs of earlier
calls: the organization of the device is the one that it has when the record is handled. -/
theorem handle_keepsApart {start : PipelineState σ} (hstart : start.tables = .empty)
    {calls : List (Call σ)} (hseparate : Separate (publications calls)) (pipeline : Pipeline σ)
    (record : TelemetryRecord) {organization : Key .organization}
    (hdevice : ∀ device, pipeline.services.catalog.device record.device = .ok (some device) →
      device.organization = organization) :
    ∃ result after sent,
      pipeline.handle record (start.afterCalls calls) = (result, after) ∧
        (∀ key run, after.runs.runs.get? key = some run →
          (start.afterCalls calls).runs.runs.get? key = some run ∨
            run.organization = organization) ∧
        (∀ outcomes, result = .ok outcomes →
          ∀ outcome ∈ outcomes, outcome.run.organization = organization) ∧
        pipeline.journaled.handle record ((start.afterCalls calls).withJournal []) =
          (result, after.withJournal sent) ∧
        ∀ command ∈ sent, command.device.organization = organization := by
  have htables := attributed_afterCalls hstart calls
  generalize start.afterCalls calls = before at htables ⊢
  have hworkflow {device : Device} {row : TriggerRow} {version : WorkflowVersion}
      {workflow : Workflow}
      (h : LeadsTo pipeline.services.catalog before.tables record device row version workflow) :
      workflow.organization = organization := by
    rw [h.organization_eq htables hseparate]
    exact hdevice device h.device_eq
  have hrun {run : Run} (h : Starts pipeline.services.catalog before.tables record run) :
      run.organization = organization := by
    obtain ⟨_, _, _, workflow, hleads, -, -, horganization⟩ := h
    rw [horganization]
    exact hworkflow hleads
  obtain ⟨sent, hsent, hjournaled⟩ := handle_journals hworkflow []
  have hends := pipeline.handle_ends record before
  have hadds := (hends.mono (fun _ _ h => h.1) fun _ _ h => h).leaves
  rcases hhandle : pipeline.handle record before with ⟨result, after⟩
  rw [hhandle] at hadds
  rw [hhandle, List.nil_append] at hjournaled
  refine ⟨result, after, sent, rfl, ?_, ?_, hjournaled, hsent⟩
  · intro key run hget
    exact (hadds.runs key run hget).imp id hrun
  · rintro outcomes rfl outcome houtcome
    exact hrun ((hends.at_ok hhandle).2 outcome houtcome)

end Pipeline

/-! ## Two organizations

Both have a meter of one type and a workflow that switches it. The second organization replaces its version,
and the index fails when the rows of the old one are to be deleted. -/

namespace Sample

/-- The meter of an organization. -/
def meterOf (tenant : Int64) : Device := { meter with id := ⟨tenant⟩, organization := ⟨tenant⟩ }

/-- A reading of the meter of an organization. -/
def meterReading (tenant : Int64) : TelemetryRecord := { record with device := ⟨tenant⟩ }

/-- A pipeline for both meters. -/
def estate : Pipeline Recorder where
  enabled := true
  services := Recorder.services
    (Inventory.ofSnapshot ⟨[meterOf 1, meterOf 2], [readings, orders], [power]⟩).catalog

/-- A graph that answers a reading of the meter of an organization with a command to it. -/
def switching (tenant : Int64) : Graph :=
  .new [.new "reading" "telemetry-trigger" (.object [
        ("mode", .str "event"),
        ("source", .object [("device_id", .ofInt64 tenant), ("topic_id", .ofInt64 1),
          ("parameter_definition_id", .ofInt64 1)])]),
      .new "switch" "command" (.object [
        ("payload_mode", .str "schema_form"),
        ("target", .object [("device_id", .ofInt64 tenant), ("topic_id", .ofInt64 2)]),
        ("payload", .object [("on", .bool true)])])]
    [.new "only" "reading" "switch"]

/-- The publication of a version for an organization. -/
def switchingOf (tenant version : Int64) : Publication :=
  ⟨.new ⟨tenant⟩ ⟨tenant⟩ "switching", .new ⟨version⟩ ⟨tenant⟩ 1 (switching tenant) ⟨0, 0⟩⟩

/-- Empty stores, where the seventh call of the index is going to fail. -/
def shared : PipelineState Recorder :=
  { PipelineState.new world with
    index := ⟨[], 0, fun _ calls => if calls = 6 then some "unreachable" else none⟩ }

/-- Each organization publishes a version. -/
def founded : List (Call Recorder) :=
  [.publish estate (switchingOf 1 1), .publish estate (switchingOf 2 2)]

/-- The second organization replaces its version, which is interrupted, and the meter of the first one sends
a reading. -/
def replaced : List (Call Recorder) :=
  founded ++ [.publish estate (switchingOf 2 3), .handle estate (meterReading 1)]

theorem separate_replaced : Separate (publications replaced) := by
  have hpublications : publications replaced = [switchingOf 1 1, switchingOf 2 2, switchingOf 2 3] := rfl
  rw [hpublications]
  exact ⟨⟨by decide +kernel, by decide +kernel⟩, by decide +kernel⟩

theorem publish_interrupted :
    (estate.publish (switchingOf 2 3).workflow (switchingOf 2 3).version
        (shared.afterCalls founded)).1 = .error (.index (.store "unreachable")) := by
  rfl

end Sample

namespace Pipeline

/-- A reading of the meter of the second organization runs the version whose publication was interrupted, and
the command goes to this meter. -/
theorem handle_replaced :
    Sample.shared.tables = .empty ∧ Separate (publications Sample.replaced) ∧
      (∀ device, Sample.estate.services.catalog.device (Sample.meterReading 2).device =
        .ok (some device) → device.organization = ⟨2⟩) ∧
      (Sample.estate.publish (Sample.switchingOf 2 3).workflow (Sample.switchingOf 2 3).version
          (Sample.shared.afterCalls Sample.founded)).1 = .error (.index (.store "unreachable")) ∧
      ∃ result after sent,
        Sample.estate.handle (Sample.meterReading 2) (Sample.shared.afterCalls Sample.replaced) =
            (result, after) ∧
          (∀ key run, after.runs.runs.get? key = some run →
            (Sample.shared.afterCalls Sample.replaced).runs.runs.get? key = some run ∨
              run.organization = ⟨2⟩) ∧
          (∀ outcomes, result = .ok outcomes →
            ∀ outcome ∈ outcomes, outcome.run.organization = ⟨2⟩) ∧
          Sample.estate.journaled.handle (Sample.meterReading 2)
              ((Sample.shared.afterCalls Sample.replaced).withJournal []) =
            (result, after.withJournal sent) ∧
          (∀ command ∈ sent, command.device.organization = ⟨2⟩) ∧
          result.toOption.map (·.map fun outcome =>
            (outcome.run.organization, outcome.run.workflowVersion)) = some [(⟨2⟩, ⟨3⟩)] ∧
          after.runs.runs.entries.map (·.2.organization) = [⟨1⟩, ⟨2⟩] ∧
          sent.map (·.device) = [Sample.meterOf 2] := by
  have hdevice : ∀ device, Sample.estate.services.catalog.device (Sample.meterReading 2).device =
      .ok (some device) → device.organization = ⟨2⟩ := by
    rintro _ ⟨⟩
    rfl
  have hempty : Sample.shared.tables = .empty := rfl
  obtain ⟨result, after, sent, hhandle, hruns, houtcomes, hjournaled, hsent⟩ :=
    handle_keepsApart hempty Sample.separate_replaced Sample.estate (Sample.meterReading 2) hdevice
  refine ⟨hempty, Sample.separate_replaced, hdevice, Sample.publish_interrupted, result, after, sent,
    hhandle, hruns, houtcomes, hjournaled, hsent, ?_, ?_, ?_⟩
  · have hresult : result = (Sample.estate.handle (Sample.meterReading 2)
        (Sample.shared.afterCalls Sample.replaced)).1 := by rw [hhandle]
    rw [hresult]
    decide +kernel
  · have hafter : after = (Sample.estate.handle (Sample.meterReading 2)
        (Sample.shared.afterCalls Sample.replaced)).2 := by rw [hhandle]
    rw [hafter]
    decide +kernel
  · have hjournal : sent = (Sample.estate.journaled.handle (Sample.meterReading 2)
        ((Sample.shared.afterCalls Sample.replaced).withJournal [])).2.world.outside.2 := by
      rw [hjournaled]
      rfl
    rw [hjournal]
    decide +kernel

end Pipeline

end TelemetryAutomation
