import TelemetryAutomation.Proofs.Graph.Index
import TelemetryAutomation.Proofs.Run.Behavior
import TelemetryAutomation.Proofs.Trigger.Sources

/-!
# Runs of accepted graphs

A graph is checked once, when it is published, and executed many times. If its settings were accepted,
no run of it fails for a reason that lies in the settings: what is left are faults of the services, texts
that come out empty, and branches that are too deep.
-/

namespace TelemetryAutomation

variable {σ τ : Type}

/-- The reasons that a run can fail for even if its settings are accepted. -/
def operationalReasons : List String :=
  ["command_dispatch_failed", "query_execution_failed", "alert_dispatch_failed",
    "alert_rendered_content_empty", "max_traversal_depth_exceeded"]

/-- The reasons that lie in the settings. -/
def settingsReasons : List String :=
  ["condition_config_missing_json_logic", "command_config_incomplete",
    "command_target_device_invalid", "command_target_topic_invalid", "catalog_lookup_failed",
    "query_config_missing", "alert_config_incomplete", "alert_recipients_invalid",
    "alert_recipients_missing"]

theorem not_mem_settingsReasons : ∀ reason ∈ operationalReasons, reason ∉ settingsReasons := by
  decide

namespace StepFault

/-- Whether a fault does not lie in the settings. -/
def isOperational : StepFault → Bool
  | depthExceeded | dispatchFailed _ | commandFailed _ | queryFailed _ | contentEmpty
  | deliveryFailed _ => true
  | _ => false

theorem reason_mem_operationalReasons {fault : StepFault} (h : fault.isOperational) :
    fault.reason ∈ operationalReasons := by
  cases fault <;> first | contradiction | simp [reason, operationalReasons]

end StepFault

/-- An outcome that is no failure, or one for an operational reason. -/
def Outcome.Operational (outcome : Outcome) : Prop :=
  outcome.status = .failed →
    ∃ fault : StepFault, fault.isOperational ∧ outcome.error = some (toJson fault)

namespace Outcome

theorem operational_failedWith {output : Json} {fault : StepFault}
    (h : fault.isOperational) : (failedWith output fault).Operational :=
  fun _ => ⟨fault, h, rfl⟩

theorem operational_of_ne {outcome : Outcome} (h : outcome.status ≠ .failed) :
    outcome.Operational :=
  fun hfailed => absurd hfailed h

end Outcome

namespace Node

variable {services : Services σ} {run : Run}

theorem runCondition_operational {settings : ConditionSettings} {expression : Json}
    (h : settings.expression? = some expression) (context : Context) :
    (runCondition services settings context).Operational := by
  apply Outcome.operational_of_ne
  rw [runCondition, h]
  exact nofun

theorem commandOutcome_operational (target : CommandTarget) (log : CommandLog) (context : Context) :
    (commandOutcome target log context).Operational := by
  rw [commandOutcome]
  split
  · exact Outcome.operational_failedWith rfl
  · exact Outcome.operational_of_ne nofun

theorem runCommand_operational {settings : CommandSettings} {device : Key .device}
    {topic : Key .topic} {payload : Object} {target : CommandTarget}
    (htarget : settings.target.bind TargetRef.complete? = some (device, topic))
    (hpayload : settings.payload = some payload)
    (hresolved : services.catalog.resolveCommandTarget run.organization device topic = .ok target)
    (context : Context) :
    (runCommand services run settings context).Yields Outcome.Operational := by
  unfold runCommand
  simp only [htarget, hpayload, hresolved]
  refine .bind (.any _) fun time _ => ?_
  refine .bind (.any _) fun answer _ => ?_
  cases answer with
  | error error => exact .pure (Outcome.operational_failedWith rfl)
  | ok log => exact .pure (commandOutcome_operational target log context)

theorem runQuery_operational {query : QueryService σ} {node : Node} {settings : Object}
    (h : node.settings? = some settings) (context : Context) :
    (runQuery query run node context).Yields Outcome.Operational := by
  unfold runQuery
  simp only [h]
  refine .bind (.any _) fun answer _ => ?_
  cases answer with
  | error error => exact .pure (Outcome.operational_failedWith rfl)
  | ok result => exact .pure (Outcome.operational_of_ne nofun)

theorem sendAlert_operational {deliver : AlertMessage → Json → σ → Except AlertError Json × σ}
    (key : String) (cooldown : Cooldown) (message : AlertMessage) (template : Json)
    (context : Context) :
    (sendAlert deliver key cooldown message template context).Yields Outcome.Operational := by
  unfold sendAlert
  refine .bind (.any _) fun claimed _ => ?_
  cases claimed with
  | false => exact .pure (Outcome.operational_of_ne nofun)
  | true =>
    refine .bind (.any _) fun answer _ => ?_
    cases answer with
    | error error =>
      refine .bind (.any _) fun _ _ => ?_
      exact .pure (Outcome.operational_failedWith rfl)
    | ok receipt => exact .pure (Outcome.operational_of_ne nofun)

theorem runAlert_operational {deliver : AlertMessage → Json → σ → Except AlertError Json × σ}
    {node : Node} (h : Alert.checkSettings node.settings? = .ok ()) (context : Context) :
    (runAlert services deliver run node context).Yields Outcome.Operational := by
  unfold runAlert
  split
  · exact .pure (Outcome.operational_of_ne nofun)
  · next settings hsettings =>
    obtain ⟨hsettings, -⟩ := Option.filter_eq_some_iff.mp hsettings
    rw [hsettings] at h
    cases hdelivering : Alert.isDelivering settings with
    | false => exact .pure (Outcome.operational_of_ne nofun)
    | true =>
      obtain ⟨subject, body, first, rest, htexts, hrecipients⟩ :=
        Alert.recipients_of_checkSettings h hdelivering
      simp only [Bool.not_true, Bool.false_eq_true, if_false, htexts, hrecipients]
      split
      · exact .pure (Outcome.operational_failedWith rfl)
      · exact sendAlert_operational _ _ _ _ _

/-- A node whose settings were accepted fails for operational reasons only. -/
theorem execute_operational {query : Option (QueryService τ)} {node : Node} {kind : NodeKind}
    (hkind : node.kind? = some kind)
    (h : NodeCheck.checkNode services.catalog query run.organization node = .ok ())
    (context : Context) :
    (node.execute services run kind context).Yields Outcome.Operational := by
  cases kind with
  | telemetryTrigger => exact .pure (Outcome.operational_of_ne nofun)
  | scheduleTrigger => exact .pure (Outcome.operational_of_ne nofun)
  | other name => exact .pure (Outcome.operational_of_ne nofun)
  | condition =>
    have hsettings := NodeCheck.conditionSettings_of_checkNode hkind h
    obtain ⟨expression, hexpression⟩ := NodeCheck.expression?_of_checkCondition hsettings
    exact .pure (runCondition_operational hexpression context)
  | command =>
    have hsettings := NodeCheck.commandSettings_of_checkNode hkind h
    obtain ⟨device, topic, payload, target, htarget, hpayload, hresolved⟩ :=
      NodeCheck.target_of_checkCommand hsettings
    exact runCommand_operational htarget hpayload hresolved context
  | query =>
    obtain ⟨fields, hfields, -⟩ := NodeCheck.settings_of_checkNode hkind (by decide) h
    simp only [execute]
    split
    · exact runQuery_operational hfields context
    · exact .pure (Outcome.operational_of_ne nofun)
  | alert =>
    have hsettings := NodeCheck.alertSettings_of_checkNode hkind h
    simp only [execute]
    split
    · exact runAlert_operational hsettings context
    · exact .pure (Outcome.operational_of_ne nofun)

end Node

namespace Execution

variable {services : Services σ} {run : Run}

/-- A visit that is no failure, or one for an operational reason. -/
def OperationalVisit (visit : Visit) : Prop :=
  visit.status = .failed →
    ∃ fault : StepFault, fault.isOperational ∧ visit.error = some (toJson fault)

theorem operationalVisit_of_records {visit : Visit} {node : Node} {input : Json} {outcome : Outcome}
    (hrecords : visit.Records node input outcome) (h : outcome.Operational) :
    OperationalVisit visit := by
  intro hfailed
  rw [hrecords.status_eq] at hfailed
  rw [hrecords.error_eq]
  exact h hfailed

/-- Nothing below a trigger of an accepted graph fails for a reason of the settings. -/
theorem walk_operational {query : Option (QueryService τ)} {workflow : Workflow} {graph : Graph}
    (hchecked : graph.checkNodes services.catalog query workflow = .ok ())
    (horganization : run.organization = workflow.organization) (stack : List Frame) :
    (Walk.walk services run graph.index stack).Yields fun visits =>
      ∀ visit ∈ visits, OperationalVisit visit := by
  refine Walk.walk_yields (fun _ => True) ?_ ?_ fun _ _ => trivial
  · intro frame node kind _ _ _ _ visit hrecords
    exact operationalVisit_of_records hrecords (Outcome.operational_failedWith rfl)
  · intro frame node kind _ hnode hkind _
    have haccepted : NodeCheck.checkNode services.catalog query run.organization node = .ok () := by
      rw [horganization]
      exact Success.forM_eq_ok.mp hchecked node (GraphIndex.mem_of_node?_eq_some hnode).1
    refine (Node.execute_operational hkind haccepted frame.context).mono fun outcome houtcome => ?_
    exact ⟨fun visit hrecords => operationalVisit_of_records hrecords houtcome, fun _ _ _ _ => trivial⟩

theorem operationalVisit_of_branches {record : TelemetryRecord} {triggers : List TriggerMatch}
    {branches : List (List Visit)}
    (h : List.Forall₂ (BranchOf record OperationalVisit) triggers branches) :
    ∀ visit ∈ branches.flatten, OperationalVisit visit := by
  induction h with
  | nil => simp
  | cons hbranch _ ih =>
    obtain ⟨started, below, rfl, hstarted, hbelow⟩ := hbranch
    rw [List.flatten_cons, List.forall_mem_append, List.forall_mem_cons]
    refine ⟨⟨?_, hbelow⟩, ih⟩
    exact operationalVisit_of_records hstarted (Outcome.operational_of_ne nofun)

/-- **Accepted settings never fail a run.** If the nodes of a graph were accepted for a workflow, then
every execution of the graph by a run of the workflow's organization with the same catalog yields a
result, whatever the services do, and each of its failed steps gives an operational reason and none that
lies in the settings. -/
theorem execute_of_checkNodes (services : Services σ) (query : Option (QueryService τ))
    (workflow : Workflow) (run : Run) (version : WorkflowVersion) (record : TelemetryRecord)
    (correlation : CorrelationId) (world : World σ) {graph : Graph}
    (hgraph : version.readGraph = .ok graph)
    (hchecked : graph.checkNodes services.catalog query workflow = .ok ())
    (horganization : run.organization = workflow.organization) :
    ∃ result, (execute services run version record correlation world).1 = .ok result ∧
      ∀ step ∈ result.steps, step.status = .failed →
        ∃ reason, step.errorReason? = some reason ∧ reason ∈ operationalReasons ∧
          reason ∉ settingsReasons := by
  obtain ⟨triggers, hmatch⟩ := Trigger.exists_matchTriggers hchecked record
  obtain ⟨result, branches, hresult, -, hbranches, hsteps⟩ :=
    execute_yields correlation hgraph hmatch
      (fun trigger _ => walk_operational hchecked horganization _) world
  refine ⟨result, hresult, ?_⟩
  intro step hstep hfailed
  rw [hsteps, List.mem_mapIdx] at hstep
  obtain ⟨position, hposition, rfl⟩ := hstep
  have hvisit := operationalVisit_of_branches hbranches _ (List.getElem_mem hposition)
  obtain ⟨fault, hfault, herror⟩ := hvisit hfailed
  have hreason := fault.reason_mem_operationalReasons hfault
  refine ⟨fault.reason, ?_, hreason, ?_⟩
  · show reasonOf? branches.flatten[position].error = some fault.reason
    rw [herror, fault.reasonOf?_toJson]
  · exact not_mem_settingsReasons _ hreason

end Execution

namespace Sample

/-- An alert whose subject is a field that readings do not have. -/
def notice : Node :=
  .new "notice" "alert" <| .object [
    ("channel", .str "email"),
    ("recipients", .arr [.str " Desk@Example.org "]),
    ("subject", .str "\x7b\x7bpayload.name\x7d\x7d"),
    ("body", .str "The power is out."),
    ("cooldown", .object [("value", .ofInt64 5), ("unit", .str "minute")])]

/-- A trigger in front of the alert. -/
def nameless : Graph := .new [listener, notice] [.new "only" "meter" "notice"]

/-- The workflow of the graph. -/
def workflow : Workflow := .new ⟨1⟩ ⟨1⟩ "notices"

end Sample

namespace Execution

theorem execute_nameless :
    (Sample.versionOf Sample.nameless).readGraph = .ok Sample.nameless ∧
      Sample.nameless.checkNodes Sample.services.catalog Sample.services.query Sample.workflow =
        .ok () ∧
      Sample.run.organization = Sample.workflow.organization ∧
      ∃ result,
        (execute Sample.services Sample.run (Sample.versionOf Sample.nameless) Sample.record ⟨0⟩
          Sample.world).1 = .ok result ∧
        ∀ step ∈ result.steps, step.status = .failed →
          ∃ reason, step.errorReason? = some reason ∧ reason ∈ operationalReasons ∧
            reason ∉ settingsReasons := by
  have hgraph : (Sample.versionOf Sample.nameless).readGraph = .ok Sample.nameless := rfl
  have hchecked : Sample.nameless.checkNodes Sample.services.catalog Sample.services.query
      Sample.workflow = .ok () := rfl
  exact ⟨hgraph, hchecked, rfl,
    execute_of_checkNodes Sample.services Sample.services.query Sample.workflow Sample.run
      (Sample.versionOf Sample.nameless) Sample.record ⟨0⟩ Sample.world hgraph hchecked rfl⟩

end Execution

end TelemetryAutomation
