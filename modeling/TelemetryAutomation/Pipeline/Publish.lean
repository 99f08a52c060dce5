import TelemetryAutomation.Pipeline.Basic
import TelemetryAutomation.Trigger.Compile

/-!
# Publishing

Publishing a version checks its graph, makes it the active version of its workflow, stores it and
compiles its triggers. Only then the rows of the version that was active before are deleted. A graph
that is refused leaves no trace.
-/

namespace TelemetryAutomation

variable {σ : Type}

/-- What publishing a version did to the trigger index. -/
structure PublishOutcome where
  version : Key .workflowVersion
  compile : CompileResult
deriving DecidableEq

instance : ToJson PublishOutcome where
  toJson o := .object [
    ("workflow_version_id", toJson o.version), ("compile", toJson o.compile)]

namespace Pipeline

/-- The graph of a version that can be published for a workflow. -/
def checkedGraph (pipeline : Pipeline σ) (workflow : Workflow) (version : WorkflowVersion) :
    Except PipelineError Graph := do
  let graph ← version.readGraph.mapError .malformedGraph
  graph.checkStructure.mapError .graph
  (graph.checkNodes pipeline.services.catalog pipeline.services.query workflow).mapError .config
  return graph

/-- The stored active version of a workflow, if it is another than the given one. -/
def supersededBy? (workflow : Workflow) (version : Key .workflowVersion) :
    PipelineAction σ (Option (Key .workflowVersion)) := do
  let stored ← PipelineAction.onWorkflows (WorkflowStore.workflow? workflow.id)
  return (stored.bind (·.activeVersion)).filter (· ≠ version)

/-- Publishes a version of a workflow. -/
def publish (pipeline : Pipeline σ) (workflow : Workflow) (version : WorkflowVersion) :
    PipelineAction σ PublishOutcome := do
  let graph ← MonadExcept.ofExcept (pipeline.checkedGraph workflow version)
  let superseded ← supersededBy? workflow version.id
  PipelineAction.onWorkflows do
    WorkflowStore.saveWorkflow { workflow with activeVersion := some version.id }
    WorkflowStore.saveVersion version
  let compile ← PipelineAction.onIndex
    (Trigger.compile pipeline.services.catalog workflow.organization version.id graph)
  if let some previous := superseded then
    discard (PipelineAction.onIndex (TriggerIndex.delete previous))
  return { version := version.id, compile }

end Pipeline

end TelemetryAutomation
