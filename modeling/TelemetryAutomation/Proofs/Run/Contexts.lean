import TelemetryAutomation.Proofs.Run.Moments

/-!
# What a node sees

A node sees what the trigger of its branch put out, the values of the record, and the results of the queries
above it. Results on other branches are not seen, although all branches of a run are walked through on one
stack and a node with two parents is visited below both. For every visit shows the context of its path, and
no other visit has a part in that.
-/

namespace TelemetryAutomation

variable {σ : Type}

/-! ## Walks -/

/-- A visit of a node in a context shows the context as its input. If it is completed with the result of a
query, then the query had this result in the context. -/
structure Visit.Shows (services : Services σ) (run : Run) (index : GraphIndex) (context : Context)
    (visit : Visit) : Prop where
  input_eq : visit.input = Walk.inputOf context
  answered : ∀ id result, visit.answer? = some (id, result) →
    ∃ node, index.node? id = some node ∧ node.Answers services run context result

namespace Walk

variable {services : Services σ} {run : Run} {index : GraphIndex} {trigger : Json} {values : Object}

theorem shows_of_failed {visit : Visit} {context : Context} (hinput : visit.input = inputOf context)
    (hfailed : visit.status = .failed) : visit.Shows services run index context := by
  refine ⟨hinput, ?_⟩
  intro id result hanswer
  simp [Visit.answer?, hfailed] at hanswer

/-- What happens at the end of a path shows the context of the path. -/
theorem Happens.shows {path : List Visit} {moment : Moment σ}
    (h : Happens services run index trigger values path moment) :
    moment.visit.Shows services run index (contextOn trigger values path) := by
  cases h with
  | @refused node hnode _ hrefuse =>
    have hrecords := refuse_yields node (contextOn trigger values path) moment.before
    rw [hrefuse] at hrecords
    exact shows_of_failed hrecords.input_eq hrecords.status_eq
  | @entered node kind hnode hkind _ henter =>
    have hvisit := enter_yields
      (Node.execute_answers services run node kind (contextOn trigger values path)) moment.before
    rw [henter] at hvisit
    obtain ⟨outcome, hanswers, hrecords, -⟩ := hvisit
    refine ⟨hrecords.input_eq, ?_⟩
    intro id result hanswer
    rw [Visit.answer?, hrecords.kind?_eq, hkind, hrecords.status_eq, hrecords.output_eq] at hanswer
    split at hanswer
    · next hcompleted =>
      cases hanswer
      exact ⟨node, hnode, hanswers (Option.some.inj hcompleted.1) hcompleted.2⟩
    · contradiction

variable (services run index trigger values) in
/-- The visits of a list of ids: they are those of a forest that has grown from the ids, and each of them
shows the context of its path. -/
def Grows (path : List Visit) (ids : List NodeId) (visits : List Visit) : Prop :=
  ∃ forest : Forest, forest.visits = visits ∧ Grown index ids forest ∧
    ∀ entry ∈ forest.paths path,
      entry.2.Shows services run index (contextOn trigger values entry.1)

theorem Unfolds.grows {path : List Visit} {ids : List NodeId} {first last : World σ}
    {visits : List Visit}
    (h : Unfolds services run index trigger values path ids first visits last) :
    Grows services run index trigger values path ids visits := by
  obtain ⟨forest, moments, hvisits, hgrown, -, hhappens⟩ := h
  refine ⟨forest, hvisits, hgrown, ?_⟩
  intro entry hentry
  obtain ⟨moment, -, hvisit, hhappens⟩ := Success.exists_item_of_mem hhappens.flip hentry
  rw [← hvisit]
  exact hhappens.shows

end Walk

namespace Execution

/-! ## Runs -/

/-- The visits of a branch in terms of paths. The trigger comes first. What follows makes up a forest that has
grown from the children of the trigger, and no other one. Each visit of it shows the context of its path
below the trigger. -/
structure BranchOfPaths (services : Services σ) (run : Run) (index : GraphIndex)
    (record : TelemetryRecord) (trigger : TriggerMatch) (visits : List Visit) (started : Visit)
    (below : Forest) : Prop where
  started_records : started.Records trigger.node (triggerInput record)
    (.completed trigger.output (Context.new trigger.output record.values))
  visits_eq : visits = started :: (below.paths []).map (·.2)
  grown : Grown index (index.children trigger.node.id) below
  only : ∀ other, Grown index (index.children trigger.node.id) other →
    visits = started :: other.visits → other = below
  shows : ∀ entry ∈ below.paths [],
    entry.2.Shows services run index (contextOn trigger.output record.values entry.1)

variable (services : Services σ) (run : Run)

theorem branch_paths (graph : Graph) (record : TelemetryRecord) (trigger : TriggerMatch) :
    (branch services run graph.index record trigger).Yields fun visits =>
      ∃ started below, BranchOfPaths services run graph.index record trigger visits started below := by
  have hbelow : ((graph.index.children trigger.node.id).mapM fun child =>
      Walk.preorder services run graph.index 1 child
        (Context.new trigger.output record.values)).Yields fun branches =>
      Walk.Grows services run graph.index trigger.output record.values []
        (graph.index.children trigger.node.id) branches.flatten :=
    fun world => (below_unfolds services run graph record trigger world).grows
  unfold branch
  refine .bind (Walk.visit_pure_yields _ _ _) ?_
  rintro ⟨started, next⟩ ⟨hstarted, -⟩
  refine .bind hbelow ?_
  rintro branches ⟨below, hvisits, hgrown, hshows⟩
  refine .pure ⟨started, below, hstarted, ?_, hgrown, ?_, hshows⟩
  · rw [Forest.map_paths, hvisits]
  · intro other hother heq
    apply hother.unique hgrown
    rw [hvisits]
    exact (List.cons.inj heq).2.symm

/-- **A node sees its own path only.** The steps of a run are those of the branches of its triggers. Below a
trigger the context in the input of each step is determined by the path that leads there: it holds what the
trigger put out, the values of the record, the result of the last query that was executed on the path, and
the results of all that were executed on it. -/
theorem execute_sees_paths (version : WorkflowVersion) (record : TelemetryRecord)
    (correlation : CorrelationId) (world : World σ) {graph : Graph} {triggers : List TriggerMatch}
    (hgraph : version.readGraph = .ok graph)
    (hmatch : matchTriggers services.catalog graph record = .ok triggers) :
    ∃ result after branches,
      execute services run version record correlation world = (.ok result, after) ∧
        result.steps = branches.flatten.mapIdx (stepOf run correlation) ∧
        List.Forall₂ (fun trigger visits => ∃ started below,
          BranchOfPaths services run graph.index record trigger visits started below)
            triggers branches := by
  have hbranch : ∀ trigger ∈ triggers,
      (runBranch services run graph.index record trigger).Yields fun visits =>
        ∃ started below, BranchOfPaths services run graph.index record trigger visits started below := by
    intro trigger _
    rw [runBranch_eq_branch]
    exact branch_paths services run graph record trigger
  obtain ⟨result, branches, hresult, -, hbranches, hsteps⟩ :=
    execute_branches correlation hgraph hmatch hbranch world
  exact ⟨result, _, branches, Prod.ext hresult rfl, hsteps, hbranches⟩

end Execution

/-! ## Two ways to one node

A node below two queries is visited twice, and each visit sees one of the results. -/

namespace Sample

/-- A query that is answered with the settings of its node. -/
def mirror : QueryService Recorder where
  check _ _ := .ok ()
  execute _ settings _ recorder := (.ok (.obj settings), recorder)

/-- The services of the recorder with queries. -/
def askingServices : Services Recorder := { services with query := some mirror }

/-- Two queries below a trigger, both in front of one node. -/
def diamond : Graph :=
  .new [listener,
      .new "left" "query" (.object [("side", .str "left")]),
      .new "right" "query" (.object [("side", .str "right")]),
      .new "end" "schedule-trigger" .null]
    [.new "first" "meter" "left", .new "second" "meter" "right", .new "third" "left" "end",
      .new "fourth" "right" "end"]

/-- What the steps of a run saw as the result of the last query. -/
def queriesSeen (answer : Except ExecutionError ExecutionResult) : List (NodeId × Option Json) :=
  match answer with
  | .ok result => result.steps.map fun step =>
      (step.node, (step.input.field? "context").bind (·.field? "query"))
  | .error _ => []

end Sample

namespace Execution

theorem execute_diamond :
    (Sample.versionOf Sample.diamond).readGraph = .ok Sample.diamond ∧
      matchTriggers Sample.askingServices.catalog Sample.diamond Sample.record =
        .ok Sample.triggers ∧
      (∃ result after branches,
        execute Sample.askingServices Sample.run (Sample.versionOf Sample.diamond) Sample.record ⟨0⟩
          Sample.world = (.ok result, after) ∧
        result.steps = branches.flatten.mapIdx (stepOf Sample.run ⟨0⟩) ∧
        List.Forall₂ (fun trigger visits => ∃ started below,
            BranchOfPaths Sample.askingServices Sample.run Sample.diamond.index Sample.record trigger
              visits started below)
          Sample.triggers branches) ∧
      Sample.queriesSeen (execute Sample.askingServices Sample.run (Sample.versionOf Sample.diamond)
          Sample.record ⟨0⟩ Sample.world).1 =
        [("meter", none), ("left", some (.object [])),
          ("end", some (.object [("side", .str "left")])), ("right", some (.object [])),
          ("end", some (.object [("side", .str "right")]))] := by
  have hgraph : (Sample.versionOf Sample.diamond).readGraph = .ok Sample.diamond := rfl
  have hmatch : matchTriggers Sample.askingServices.catalog Sample.diamond Sample.record =
      .ok Sample.triggers := rfl
  refine ⟨hgraph, hmatch, ?_, ?_⟩
  · exact execute_sees_paths Sample.askingServices Sample.run (Sample.versionOf Sample.diamond)
      Sample.record ⟨0⟩ Sample.world hgraph hmatch
  · decide +kernel

end Execution

end TelemetryAutomation
