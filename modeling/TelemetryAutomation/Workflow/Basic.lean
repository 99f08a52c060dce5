import TelemetryAutomation.Graph.Basic
import TelemetryAutomation.Identity.Key
import TelemetryAutomation.Time.Timestamp

/-!
# Workflows and their versions

A workflow belongs to an organization. Its graph is published in versions that never change; at most
one of them is active. A version keeps the document of its graph as it was stored, and the document
is read when it is used.
-/

namespace TelemetryAutomation

/-- A workflow of an organization. -/
structure Workflow where
  id : Key .workflow
  organization : Key .organization
  name : String
  activeVersion : Option (Key .workflowVersion)
deriving DecidableEq

/-- A published graph. -/
structure WorkflowVersion where
  id : Key .workflowVersion
  workflow : Key .workflow
  /-- The number of the version within its workflow. -/
  version : UInt32
  /-- The graph as it was stored. -/
  graph : Json
  createdAt : Timestamp
deriving DecidableEq

/-- A workflow without active version. -/
def Workflow.new (id : Key .workflow) (organization : Key .organization) (name : String) :
    Workflow :=
  ⟨id, organization, name, none⟩

namespace WorkflowVersion

/-- A version that stores a graph. -/
def new (id : Key .workflowVersion) (workflow : Key .workflow) (version : UInt32) (graph : Graph)
    (createdAt : Timestamp) : WorkflowVersion :=
  ⟨id, workflow, version, toJson graph, createdAt⟩

/-- Reads the stored graph. -/
def readGraph (version : WorkflowVersion) : Except GraphError Graph :=
  Graph.ofJson version.graph

end WorkflowVersion

instance : ToJson Workflow where
  toJson w := .object [
    ("id", toJson w.id),
    ("organization_id", toJson w.organization),
    ("name", toJson w.name),
    ("active_version_id", toJson w.activeVersion)]

instance : FromDocument Workflow where
  read := RecordReader.read do
    return {
      id := ← .required "id"
      organization := ← .required "organization_id"
      name := ← .required "name"
      activeVersion := ← .optional "active_version_id" }

instance : ToJson WorkflowVersion where
  toJson v := .object [
    ("id", toJson v.id),
    ("workflow_id", toJson v.workflow),
    ("version", toJson v.version),
    ("graph", v.graph),
    ("created_at", toJson v.createdAt)]

instance : FromDocument WorkflowVersion where
  read := RecordReader.read do
    return {
      id := ← .required "id"
      workflow := ← .required "workflow_id"
      version := ← .required "version"
      graph := ← .required "graph"
      createdAt := ← .required "created_at" }

end TelemetryAutomation
