import TelemetryAutomation.Graph.Structure
import TelemetryAutomation.Proofs.Alert.Keys
import TelemetryAutomation.Proofs.Run.Audit
import TelemetryAutomation.Proofs.Run.Contexts
import TelemetryAutomation.Proofs.Run.Cooldowns

/-!
# Which alerts silence which

All triggers of a run name the device and the topic of its record. So the key under which an alert of the run
is sent depends on its node alone, and of the node on the words of its id. Therefore an alert is silenced if
its key was claimed before the run, or if an alert with the same words was delivered earlier in the run and its
cooldown lasts. Ids with the same words need not be equal: alerts that are different nodes of a well-formed
graph may silence each other.
-/

namespace TelemetryAutomation

variable {σ : Type}

/-! ## What triggers name -/

namespace Execution

/-- What a trigger puts out names the device and the topic of the record. -/
theorem names_triggerOutput (parameter : Parameter) (record : TelemetryRecord) :
    Alert.Names (triggerOutput parameter record) record.device.value.toInt record.topic.value.toInt where
  device := ⟨_, (Json.field?_object _ _).trans rfl⟩
  topic := ⟨_, (Json.field?_object _ _).trans rfl⟩

theorem output_matchTrigger {catalog : Catalog} {record : TelemetryRecord} {node : Node}
    {trigger : TriggerMatch} (h : matchTrigger catalog record node = .ok (some trigger)) :
    ∃ parameter, trigger.output = triggerOutput parameter record := by
  rw [matchTrigger] at h
  cases hlistens : listensTo? node record with
  | none =>
    rw [hlistens] at h
    cases h
  | some id =>
    simp only [hlistens, Success.bind_eq_ok] at h
    obtain ⟨parameter, -, h⟩ := h
    cases parameter with
    | none => cases h
    | some parameter =>
      by_cases htopic : parameter.topic = record.topic
      · simp only [if_pos htopic] at h
        cases h
        exact ⟨parameter, rfl⟩
      · simp only [if_neg htopic] at h
        cases h

theorem output_of_mem_matchTriggers {catalog : Catalog} {graph : Graph} {record : TelemetryRecord}
    {triggers : List TriggerMatch} (h : matchTriggers catalog graph record = .ok triggers) :
    ∀ trigger ∈ triggers, ∃ parameter, trigger.output = triggerOutput parameter record := by
  rw [matchTriggers, Success.bind_eq_ok] at h
  obtain ⟨found, hfound, h⟩ := h
  cases h
  intro trigger htrigger
  obtain ⟨match?, hmatch, rfl⟩ := List.mem_filterMap.mp htrigger
  obtain ⟨node, -, hnode⟩ := Success.exists_item_of_mem (Success.mapM_eq_ok.mp hfound) hmatch
  exact output_matchTrigger hnode

end Execution

/-- The input of a node shows the trigger of its context. -/
theorem Walk.trigger_inputOf (context : Context) :
    ((inputOf context).field? "context").bind (·.field? "trigger") = some context.trigger := by
  have hfields : toJson context = .object [("trigger", context.trigger),
      ("payload", .obj context.payload), ("query", context.query), ("queries", .obj context.queries)] := rfl
  have hcontext : (inputOf context).field? "context" = some (toJson context) := by
    rw [inputOf, Json.field?_object]
    rfl
  rw [hcontext, hfields, Option.bind_some, Json.field?_object]
  rfl

namespace Execution

section

variable {services : Services σ} {run : Run} {version : WorkflowVersion} {record : TelemetryRecord}
  {correlation : CorrelationId} {first last : World σ} {result : ExecutionResult} {graph : Graph}
  {triggers : List TriggerMatch} {branches : List (Branch σ)}

/-- Wherever a node is visited in a context of a run, the trigger names the device and the topic of the
record. -/
theorem Tells.names_of_mem
    (h : Tells services run version record correlation first result last graph triggers branches)
    {moment : Moment σ} (hmoment : moment ∈ branches.flatMap Branch.moments) {context : Context}
    (hinput : moment.visit.input = Walk.inputOf context) :
    Alert.Names context.trigger record.device.value.toInt record.topic.value.toInt := by
  have hshown := Walk.trigger_inputOf context
  rw [← hinput] at hshown
  obtain ⟨trigger, htrigger, branch, -, htold, rfl | ⟨path, -, hhappens⟩⟩ := h.exists_of_mem hmoment
  · -- a trigger is visited before there is a context
    obtain ⟨world, hacts⟩ := htold.started_acts
    rw [hacts.records.input_eq, triggerInput, Json.field?_object] at hshown
    cases hshown
  · obtain ⟨parameter, houtput⟩ := output_of_mem_matchTriggers h.matchTriggers_eq trigger htrigger
    rw [hhappens.shows.input_eq, Walk.trigger_inputOf] at hshown
    rw [← Option.some.inj hshown]
    exact houtput ▸ names_triggerOutput parameter record

end

end Execution

/-! ## What steps show -/

namespace AlertRequest.ShownBy

variable {request : AlertRequest} {status : StepStatus} {output : Json} {error : Option Json}

theorem skipped_iff (h : request.ShownBy status output error) :
    status = .skipped ↔ request.answer = .silenced := by
  cases h <;> simp_all

theorem completed_iff (h : request.ShownBy status output error) :
    status = .completed ↔ request.answer = .delivered := by
  cases h <;> simp_all

end AlertRequest.ShownBy

namespace RunStep

/-- An alert that shows that it asked for its key. -/
def AsksForKey (step : RunStep) : Prop :=
  step.kind? = some .alert ∧ Alert.ShowsRequest step.status step.output step.error

instance (step : RunStep) : Decidable step.AsksForKey := inferInstanceAs (Decidable (_ ∧ _))

/-- A step makes a request in an execution: it stands for a visit that does, and the key is that of its node
and of a trigger that names the device and the topic of the record. -/
structure Makes (launch : Execution.Launch σ) (index : GraphIndex) (step : RunStep)
    (request : AlertRequest) : Prop where
  stands : ∃ position visit, step = Execution.stepOf launch.run launch.correlation position visit ∧
    visit.Makes launch.services launch.run index request
  key_eq : ∃ trigger, Alert.Names trigger launch.record.device.value.toInt launch.record.topic.value.toInt ∧
    request.key = Alert.cooldownKey launch.run.workflowVersion step.node trigger

variable {launch : Execution.Launch σ} {index : GraphIndex} {step step' : RunStep}
  {request request' : AlertRequest}

theorem Makes.shown (h : step.Makes launch index request) :
    request.ShownBy step.status step.output step.error := by
  obtain ⟨position, visit, rfl, hmakes⟩ := h.stands
  exact hmakes.shown

/-- Within an execution requests are for the same key exactly if their nodes have the same words. -/
theorem Makes.key_eq_iff (h : step.Makes launch index request) (h' : step'.Makes launch index request') :
    request.key = request'.key ↔ Text.words step.node = Text.words step'.node := by
  obtain ⟨trigger, hnames, hkey⟩ := h.key_eq
  obtain ⟨trigger', hnames', hkey'⟩ := h'.key_eq
  rw [hkey, hkey', Alert.cooldownKey_eq_iff hnames hnames']
  simp

end RunStep

namespace Execution

/-! ## Runs -/

/-- At a moment of an execution a request is made if the step of its visit shows one. -/
theorem Tells.step_makes_of_mem {launch : Launch σ} {result : ExecutionResult} {last : World σ}
    {graph : Graph} {triggers : List TriggerMatch} {branches : List (Branch σ)}
    (h : Tells launch.services launch.run launch.version launch.record launch.correlation launch.first
      result last graph triggers branches)
    {moment : Moment σ} (hmoment : moment ∈ branches.flatMap Branch.moments) :
    ∃ requests, Ledger.requests.Accounts moment.before requests moment.after ∧
      ∀ position, OneIf (stepOf launch.run launch.correlation position moment.visit).AsksForKey
        ((stepOf launch.run launch.correlation position moment.visit).Makes launch graph.index)
        requests := by
  obtain ⟨requests, haccounts, hone⟩ := h.makes_of_mem hmoment
  refine ⟨requests, haccounts, fun position => ?_⟩
  cases hone with
  | none hasks => exact .none hasks
  | one hasks hmakes =>
    obtain ⟨node, context, -, hinput, hkey, -⟩ := hmakes.asks
    exact .one hasks
      ⟨⟨position, _, rfl, hmakes⟩, context.trigger, h.names_of_mem hmoment hinput, hkey⟩

/-- The requests of an execution are those of its steps that ask for their keys, in order. -/
theorem Launch.exists_asked (launch : Launch σ) {result : ExecutionResult}
    (hanswer : launch.answer = .ok result) :
    ∃ graph requests, launch.version.readGraph = .ok graph ∧
      Ledger.requests.Accounts launch.first requests launch.last ∧
      List.Forall₂ (RunStep.Makes launch graph.index) (result.steps.filter (·.AsksForKey)) requests := by
  rcases execute_tells launch.services launch.run launch.version launch.record launch.correlation
      launch.first with
    ⟨error, heq⟩ | ⟨result', last, graph, triggers, branches, heq, htells⟩
  · rw [answer, heq] at hanswer
    cases hanswer
  · rw [answer, heq] at hanswer
    obtain rfl := Except.ok.inj hanswer
    obtain ⟨requests, haccounts, hrequests⟩ :=
      htells.trail.accounts .requests fun _ hmoment => htells.step_makes_of_mem hmoment
    refine ⟨graph, requests.flatten, htells.readGraph_eq, ?_, ?_⟩
    · rw [Launch.last, heq]
      exact haccounts
    · exact forall₂_filter_of_oneIf (htells.forall₂_steps hrequests)

end Execution

/-- Among steps with their requests, one is skipped exactly if its key was claimed before them all and still
is, or if an earlier step with the same words was completed and its cooldown lasts. -/
def RunStep.SilencedByWords (store : CooldownStore) (asked : List (RunStep × AlertRequest)) : Prop :=
  ∀ earlier step request later, asked = earlier ++ (step, request) :: later →
    (step.status = .skipped ↔
      store.Holds request.key request.time ∨
        ∃ other ∈ earlier, other.1.status = .completed ∧
          Text.words step.node = Text.words other.1.node ∧ request.time < other.2.ends)

/-- The steps of an execution are silenced as their requests are, and these by their keys. -/
theorem Requests.silencedByWords {launch : Execution.Launch σ} {index : GraphIndex}
    {steps : List RunStep} {requests : List AlertRequest} {store after : CooldownStore}
    {now later : Nat} (h : Requests store now requests after later)
    (hmakes : List.Forall₂ (RunStep.Makes launch index) steps requests) :
    RunStep.SilencedByWords store (steps.zip requests) := by
  intro earlier step request rest hsplit
  obtain ⟨hlength, hzip⟩ := List.forall₂_iff_zip.mp hmakes
  have hrequests : requests = earlier.map (·.2) ++ request :: rest.map (·.2) := by
    rw [← List.map_snd_zip hlength.ge, hsplit]
    simp
  have hstep : step.Makes launch index request := hzip (by simp [hsplit])
  rw [hrequests] at h
  rw [hstep.shown.skipped_iff, h.silenced_iff]
  apply or_congr_right
  -- what is said of an earlier request is said of its step
  have hother : ∀ other ∈ earlier, (other.2.answer = .delivered ∧ request.key = other.2.key ∧
      request.time < other.2.ends ↔ other.1.status = .completed ∧
        Text.words step.node = Text.words other.1.node ∧ request.time < other.2.ends) := by
    intro other hother
    have hmade : other.1.Makes launch index other.2 := hzip (by simp [hsplit, hother])
    rw [hstep.key_eq_iff hmade, hmade.shown.completed_iff]
  simp only [List.mem_map, exists_exists_and_eq_and]
  exact exists_congr fun other => and_congr_right (hother other)

namespace Execution

/-- **An alert is silenced by those of the same words.** Keys of alerts are equal exactly if the version, the
words of the node, the device and the topic are. An execution makes one request for each step that asks for
its key, and such a step is silenced by the earlier ones whose nodes have the same words. -/
theorem silenced_by_words {version version' : Key .workflowVersion} {node node' : NodeId}
    {trigger trigger' : Json} {device device' topic topic' : Int}
    (hnames : Alert.Names trigger device topic) (hnames' : Alert.Names trigger' device' topic')
    (launch : Launch σ) {result : ExecutionResult} (hanswer : launch.answer = .ok result) :
    (Alert.cooldownKey version node trigger = Alert.cooldownKey version' node' trigger' ↔
      version = version' ∧ Text.words node = Text.words node' ∧ device = device' ∧ topic = topic') ∧
    ∃ graph requests, launch.version.readGraph = .ok graph ∧
      List.Forall₂ (RunStep.Makes launch graph.index) (result.steps.filter (·.AsksForKey)) requests ∧
      RunStep.SilencedByWords launch.first.cooldowns
        ((result.steps.filter (·.AsksForKey)).zip requests) := by
  refine ⟨Alert.cooldownKey_eq_iff hnames hnames', ?_⟩
  obtain ⟨graph, requests, hgraph, haccounts, hmakes⟩ := launch.exists_asked hanswer
  exact ⟨graph, requests, hgraph, hmakes, haccounts.silencedByWords hmakes⟩

end Execution

/-! ## Two alerts with one key -/

namespace Sample

/-- An alert by mail. -/
def mailer (id : NodeId) : Node :=
  .new id "alert" (.object [
    ("channel", .str "email"), ("recipients", .arr [.str "staff@site.org"]),
    ("subject", .str "Power"), ("body", .str "The power is on.")])

/-- A trigger in front of two alerts whose ids have the same words. -/
def twoMailers : Graph :=
  .new [listener, mailer "mail-1", mailer "mail_1"]
    [.new "first" "meter" "mail-1", .new "second" "meter" "mail_1"]

/-- An execution of both alerts in a new world. -/
def twoWarnings : Execution.Launch Recorder := { firstWarning with version := versionOf twoMailers }

/-- The nodes that an execution visits, each with its ending. -/
def nodeEndings (launch : Execution.Launch σ) : List (NodeId × StepStatus) :=
  match launch.answer with
  | .ok result => result.steps.map fun step => (step.node, step.status)
  | .error _ => []

/-- What the trigger in front of the alerts puts out. -/
def powerTrigger : Json := Execution.triggerOutput power record

end Sample

namespace Execution

/-- The second of two alerts with the same words is silenced by the first one. -/
theorem silenced_by_words_mailers :
    Alert.Names Sample.powerTrigger 1 1 ∧
      (Alert.cooldownKey ⟨1⟩ "mail-1" Sample.powerTrigger =
          Alert.cooldownKey ⟨1⟩ "mail_1" Sample.powerTrigger ↔
        (⟨1⟩ : Key .workflowVersion) = ⟨1⟩ ∧ Text.words "mail-1" = Text.words "mail_1" ∧
          (1 : Int) = 1 ∧ (1 : Int) = 1) ∧
      ∃ result graph requests, Sample.twoWarnings.answer = .ok result ∧
        Sample.twoWarnings.version.readGraph = .ok graph ∧
        List.Forall₂ (RunStep.Makes Sample.twoWarnings graph.index) (result.steps.filter (·.AsksForKey))
          requests ∧
        RunStep.SilencedByWords Sample.twoWarnings.first.cooldowns
          ((result.steps.filter (·.AsksForKey)).zip requests) := by
  have hnames : Alert.Names Sample.powerTrigger 1 1 := names_triggerOutput Sample.power Sample.record
  have hgraph : Sample.twoWarnings.version.readGraph = .ok Sample.twoMailers := rfl
  have hmatch : matchTriggers Sample.twoWarnings.services.catalog Sample.twoMailers
      Sample.twoWarnings.record = .ok Sample.triggers := rfl
  obtain ⟨result, _, _, heq, -⟩ :=
    execute_sees_paths _ Sample.twoWarnings.run _ _ Sample.twoWarnings.correlation
      Sample.twoWarnings.first hgraph hmatch
  have hanswer : Sample.twoWarnings.answer = .ok result := by rw [Launch.answer, heq]
  obtain ⟨hkeys, graph, requests, hsilenced⟩ := silenced_by_words hnames hnames Sample.twoWarnings hanswer
  exact ⟨hnames, hkeys, result, graph, requests, hanswer, hsilenced⟩

/-- Different nodes of a well-formed graph may share a key, and one alert silences the other then. -/
theorem cooldownKey_mailers :
    "mail-1" ≠ "mail_1" ∧
      Alert.cooldownKey ⟨1⟩ "mail-1" Sample.powerTrigger =
        Alert.cooldownKey ⟨1⟩ "mail_1" Sample.powerTrigger ∧
      Sample.twoMailers.checkStructure.toBool ∧
      Sample.nodeEndings Sample.twoWarnings =
        [("meter", .completed), ("mail-1", .completed), ("mail_1", .skipped)] := by
  refine ⟨by decide, by decide +kernel, by decide +kernel, by decide +kernel⟩

end Execution

end TelemetryAutomation
