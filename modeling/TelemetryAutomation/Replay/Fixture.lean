import TelemetryAutomation.Catalog.Basic
import TelemetryAutomation.Catalog.Telemetry
import TelemetryAutomation.Json.Reader
import TelemetryAutomation.Workflow.Basic

/-!
# Fixtures

A fixture is a recorded scenario: the contents of a catalog, workflows with the versions to publish
for them, and telemetry.
-/

namespace TelemetryAutomation

/-- A version to publish. -/
structure VersionFixture where
  id : Key .workflowVersion
  version : UInt32
  graph : Graph

/-- A workflow and the versions to publish for it, in order. -/
structure WorkflowFixture where
  workflow : Workflow
  versions : List VersionFixture

/-- A recorded scenario. -/
structure Fixture where
  catalog : CatalogSnapshot
  workflows : List WorkflowFixture
  telemetry : List TelemetryRecord

instance : FromDocument VersionFixture where
  read := RecordReader.read do
    return {
      id := ← .required "id"
      version := ← .defaulted "version" 1
      graph := ← .required "graph" }

instance : FromDocument WorkflowFixture where
  read := RecordReader.read do
    return { workflow := ← .required "workflow", versions := ← .required "versions" }

instance : FromDocument Fixture where
  read := RecordReader.read do
    return {
      catalog := ← .defaulted "catalog" ⟨[], [], []⟩
      workflows := ← .defaulted "workflows" []
      telemetry := ← .defaulted "telemetry" [] }

namespace Fixture

/-- Why a text is no fixture. -/
inductive ReadFault
  /-- The text is no JSON document. -/
  | notJson
  | record (error : ReadError)

/-- The wording of a fault. -/
def ReadFault.message : ReadFault → String
  | notJson => "not a JSON document"
  | record error => error.message

/-- Reads a fixture. -/
def read (text : String) : Except ReadFault Fixture :=
  match Document.read? text with
  | none => .error .notJson
  | some document => (FromDocument.read document).mapError .record

end Fixture

end TelemetryAutomation
