import Mathlib.Data.Finset.Card
import Mathlib.Data.Int.Interval
import TelemetryAutomation.Proofs.Pipeline.LiveVersion
import TelemetryAutomation.Proofs.Run.Accepted

/-!
# Handling telemetry after a history of publications

A record starts the live versions that have a trigger for it, although it is the rows of the index that
are looked up and not the graphs. Each of them is run once, in ascending order, and its run completes the
triggers that hear the record.
-/

namespace TelemetryAutomation

open Success (Succeeds)

variable {σ : Type}

namespace Pipeline

variable {pipeline : Pipeline σ} {owner : Key .workflowVersion → Option (Key .workflow)}
  {state : PipelineState σ} {id : Key .workflowVersion} {record : TelemetryRecord}

/-! ## Records -/

/-- The keys of runs are positive until they run out. -/
theorem ofNat_pos {n : Nat} (hn : 0 < n) (hlt : n < 2 ^ 63) : 0 < Int64.ofNat n := by
  rw [Int64.lt_iff_toInt_lt, Int64.toInt_ofNat_of_lt hlt]
  exact Int.natCast_pos.mpr hn

/-- Every one of so many different versions can have a run with a key of its own. -/
theorem length_lt_of_pos {versions : List (Key .workflowVersion)} (hnodup : versions.Nodup)
    (hpos : ∀ id ∈ versions, 0 < id.value) : versions.length < 2 ^ 63 := by
  -- different versions have different numbers, and all numbers lie in an interval
  let number (id : Key .workflowVersion) : Int := id.value.toInt
  have hinjective : Set.InjOn number versions.toFinset := by
    intro first _ second _ heq
    exact Key.ext (Int64.toInt_inj.mp heq)
  have hmaps : Set.MapsTo number versions.toFinset (Finset.Ioo (0 : Int) (2 ^ 63)) := by
    intro id hid
    have hpos := Int64.lt_iff_toInt_lt.mp (hpos id (List.mem_toFinset.mp hid))
    exact Finset.mem_coe.mpr (Finset.mem_Ioo.mpr ⟨hpos, Int64.toInt_lt id.value⟩)
  have hcard := Finset.card_le_card_of_injOn number hmaps hinjective
  rw [List.toFinset_card_of_nodup hnodup, Int.card_Ioo] at hcard
  omega

/-- The outcomes of handling a record: one run of each live version that has a trigger for it. -/
structure Handled (base : PipelineState σ) (record : TelemetryRecord) (outcomes : List RunOutcome)
    (after : PipelineState σ) : Prop where
  /-- In ascending order, so that no version is run twice. -/
  ascending : (outcomes.map (·.run.workflowVersion)).Pairwise (compare · · = .lt)
  mem_iff : ∀ id, id ∈ outcomes.map (·.run.workflowVersion) ↔
    ∃ graph, base.IsLive id graph ∧ ∃ node ∈ graph.nodes, node.hears record
  completes : ∀ outcome ∈ outcomes, ∃ graph, base.IsLive outcome.run.workflowVersion graph ∧
    (outcome.steps.filter (·.completesTrigger)).map (·.node) =
      (graph.nodes.filter (·.hears record)).map (·.id)
  /-- The runs of the outcomes are all that were started. -/
  started : after.runs.nextId = .ofNat (outcomes.length + 1)

theorem versions_of_ran {base : PipelineState σ} {ids : List (Key .workflowVersion)}
    {outcomes : List RunOutcome} (h : List.Forall₂ (Ran base record) ids outcomes) :
    outcomes.map (·.run.workflowVersion) = ids := by
  induction h with
  | nil => rfl
  | cons hran _ ih => rw [List.map_cons, hran.version_eq, ih]

theorem nodup_of_ascending {versions : List (Key .workflowVersion)}
    (h : versions.Pairwise (compare · · = .lt)) : versions.Nodup := by
  apply h.imp
  intro first second hless heq
  rw [heq, Std.compare_self] at hless
  cases hless

/-- Matching finds the live versions that have a trigger for the record, and nothing is run yet. -/
theorem matching_succeeds (hstate : Consistent pipeline owner state)
    (hcatalog : pipeline.services.catalog.Faithful) (record : TelemetryRecord)
    {drawn : PipelineState σ} (hdrawn : SameStores state drawn) :
    Succeeds (PipelineAction.onIndex (Trigger.matching pipeline.services.catalog
      pipeline.services.evaluate record)) drawn fun versions after =>
        versions.Pairwise (compare · · = .lt) ∧
          (∀ id, id ∈ versions ↔
            ∃ graph, state.IsLive id graph ∧ ∃ node ∈ graph.nodes, node.hears record) ∧
          Serving state 0 after := by
  obtain ⟨versions, index, hmatching, hascending, hmem⟩ :=
    Trigger.run_matching pipeline.services.evaluate hstate.index_reliable
      (fun row => hstate.filter_eq_none) hcatalog record
  rw [← hdrawn.index_eq] at hmatching
  have hserving : Serving state 0 { drawn with index } := by
    have hruns : drawn.runs = .empty := hdrawn.runs_eq.trans hstate.runs_eq
    refine ⟨?_, ?_, ?_, ?_, ?_⟩
    · show drawn.workflows.workflows = _
      rw [hdrawn.workflows_eq]
    · show drawn.workflows.versions = _
      rw [hdrawn.workflows_eq]
    · show drawn.workflows.Reliable
      rw [hdrawn.workflows_eq]
      exact hstate.workflows_reliable
    · show drawn.runs.outages.Reliable
      rw [hruns]
      exact Outages.reliable_none
    · show drawn.runs.nextId = _
      rw [hruns]
      rfl
  exact .of_eq (PipelineAction.onIndex_of_ok hmatching)
    ⟨hascending, fun id => (hmem id).trans (hstate.covers_iff_hears hcatalog), hserving⟩

/-- On a consistent state every record can be handled, as long as there are keys for the runs. -/
theorem handle_succeeds (henabled : pipeline.enabled)
    (hcatalog : pipeline.services.catalog.Faithful) (hstate : Consistent pipeline owner state)
    (hkeys : ∀ versions : List (Key .workflowVersion), versions.Nodup →
      (∀ id ∈ versions, (owner id).isSome) → versions.length < 2 ^ 63) :
    Succeeds (pipeline.handle record) state (Handled state record) := by
  unfold handle
  rw [if_pos henabled]
  apply (drawCorrelation_succeeds state).bind
  intro event drawn hdrawn
  apply (matching_succeeds hstate hcatalog record hdrawn).bind
  rintro versions matched ⟨hascending, hlive, hserving⟩
  have howners : ∀ id ∈ versions, (owner id).isSome := by
    intro id hid
    obtain ⟨graph, hgraph, -⟩ := (hlive id).mp hid
    obtain ⟨_, _, version, _, -, h, rfl⟩ := hstate.isLive_iff.mp hgraph
    rw [h.owner_eq]
    rfl
  have hlength : versions.length < 2 ^ 63 :=
    hkeys versions (nodup_of_ascending hascending) howners
  -- the invariant counts the runs, since each of them takes a key
  have hruns : Succeeds (versions.mapM (pipeline.runIfLive record event)) matched
      fun found after =>
        List.Forall₂ (fun id found => ∃ outcome, found = some outcome ∧ Ran state record id outcome)
          versions found ∧ Serving state (0 + versions.length) after := by
    refine .mapM ?_ hserving
    intro id hid i hi before hbefore
    obtain ⟨graph, hgraph, -⟩ := (hlive id).mp hid
    have hkey : 0 < Int64.ofNat (i + 1) := ofNat_pos i.succ_pos (by omega)
    exact runIfLive_succeeds hstate hcatalog hgraph event hbefore hkey
  apply hruns.bind
  rintro found after ⟨hfound, hafter⟩
  have hran := Success.forall₂_filterMap_id hfound
  apply Succeeds.pure
  refine ⟨?_, ?_, ?_, ?_⟩
  · rw [versions_of_ran hran]
    exact hascending
  · rw [versions_of_ran hran]
    exact hlive
  · intro outcome houtcome
    obtain ⟨id, -, houtcome⟩ := Success.exists_item_of_mem hran houtcome
    rw [houtcome.version_eq]
    exact houtcome.completes
  · rw [hafter.nextId_eq, Nat.zero_add, hran.length_eq]

/-! ## Records after a history -/

/-- The workflow that a history publishes a version of. -/
def ownerIn (history : List Publication) (id : Key .workflowVersion) : Option (Key .workflow) :=
  (history.find? (·.version.id = id)).map (·.workflow.id)

theorem ownerIn_eq {history : List Publication}
    (howned : ∀ p ∈ history, ∀ q ∈ history, p.version.id = q.version.id →
      p.workflow.id = q.workflow.id) :
    ∀ p ∈ history, ownerIn history p.version.id = some p.workflow.id := by
  intro p hp
  unfold ownerIn
  cases hfind : history.find? (·.version.id = p.version.id) with
  | none =>
    have hnone := List.find?_eq_none.mp hfind p hp
    simp at hnone
  | some q =>
    have hq := List.mem_of_find?_eq_some hfind
    have hid := List.find?_some hfind
    rw [decide_eq_true_eq] at hid
    rw [Option.map_some, howned q hq p hp hid]

theorem exists_of_ownerIn {history : List Publication} (h : (ownerIn history id).isSome) :
    ∃ p ∈ history, p.version.id = id := by
  rw [ownerIn, Option.isSome_map, List.find?_isSome] at h
  obtain ⟨p, hp, hid⟩ := h
  exact ⟨p, hp, of_decide_eq_true hid⟩

/-- **The index says what a scan of the live graphs would.** After any history of publications on empty
stores, an enabled pipeline with a faithful catalog runs a record on exactly the live versions with a
trigger for it, on each of them once and in ascending order, and each run completes exactly the triggers
that hear the record.

Every publication of a history names the workflow that its version belongs to, and no version belongs to
two workflows. Versions have positive keys, or there are not too many of them, so that there is a
positive key for each run. -/
theorem handle_afterHistory (world : World σ) {history : List Publication}
    (henabled : pipeline.enabled) (hcatalog : pipeline.services.catalog.Faithful)
    (hof : ∀ p ∈ history, p.version.workflow = p.workflow.id)
    (howned : ∀ p ∈ history, ∀ q ∈ history, p.version.id = q.version.id →
      p.workflow.id = q.workflow.id)
    (hkeys : (∀ p ∈ history, 0 < p.version.id.value) ∨ history.length < 2 ^ 63)
    (record : TelemetryRecord) :
    ∃ outcomes after,
      pipeline.handle record (pipeline.afterHistory world history) = (.ok outcomes, after) ∧
        Handled (pipeline.afterHistory world history) record outcomes after := by
  have hstate : Consistent pipeline (ownerIn history) (pipeline.afterHistory world history) :=
    consistent_afterHistory world hof (ownerIn_eq howned)
  apply handle_succeeds henabled hcatalog hstate
  intro versions hnodup howners
  have hpublished : ∀ id ∈ versions, ∃ p ∈ history, p.version.id = id :=
    fun id hid => exists_of_ownerIn (howners id hid)
  rcases hkeys with hpos | hlength
  · apply length_lt_of_pos hnodup
    intro id hid
    obtain ⟨p, hp, rfl⟩ := hpublished id hid
    exact hpos p hp
  · have hsubset : versions ⊆ history.map (·.version.id) :=
      fun id hid => List.mem_map.mpr (hpublished id hid)
    have hle := hnodup.length_le_of_subset hsubset
    rw [List.length_map] at hle
    omega

end Pipeline

namespace Sample

/-- A pipeline on the sample services. -/
def pipeline : Pipeline Recorder := ⟨true, services⟩

/-- A version that is published, one that is refused because it has a cycle, and one that supersedes the
first. -/
def history : List Pipeline.Publication :=
  [⟨workflow, versionOf nameless⟩, ⟨workflow, { versionOf loop with id := ⟨2⟩ }⟩,
    ⟨workflow, { versionOf nameless with id := ⟨3⟩ }⟩]

theorem of_mem_history : ∀ p ∈ history,
    p.workflow = workflow ∧ p.version.workflow = workflow.id ∧ 0 < p.version.id.value := by
  simp only [history, List.forall_mem_cons, List.not_mem_nil, false_implies, implies_true]
  decide

end Sample

namespace Pipeline

theorem handle_sampleHistory :
    Sample.pipeline.enabled ∧ Sample.pipeline.services.catalog.Faithful ∧
      (∀ p ∈ Sample.history, p.version.workflow = p.workflow.id) ∧
      (∀ p ∈ Sample.history, ∀ q ∈ Sample.history, p.version.id = q.version.id →
        p.workflow.id = q.workflow.id) ∧
      (∀ p ∈ Sample.history, 0 < p.version.id.value) ∧
      ∃ outcomes after,
        Sample.pipeline.handle Sample.record
            (Sample.pipeline.afterHistory Sample.world Sample.history) = (.ok outcomes, after) ∧
          Handled (Sample.pipeline.afterHistory Sample.world Sample.history) Sample.record outcomes
            after := by
  have hcatalog : Sample.pipeline.services.catalog.Faithful :=
    (Inventory.orderly_ofSnapshot _).faithful
  have hof : ∀ p ∈ Sample.history, p.version.workflow = p.workflow.id := by
    intro p hp
    obtain ⟨hworkflow, hof, -⟩ := Sample.of_mem_history p hp
    rw [hof, hworkflow]
  have howned : ∀ p ∈ Sample.history, ∀ q ∈ Sample.history, p.version.id = q.version.id →
      p.workflow.id = q.workflow.id := by
    intro p hp q hq _
    rw [(Sample.of_mem_history p hp).1, (Sample.of_mem_history q hq).1]
  have hpos : ∀ p ∈ Sample.history, 0 < p.version.id.value :=
    fun p hp => (Sample.of_mem_history p hp).2.2
  exact ⟨rfl, hcatalog, hof, howned, hpos,
    handle_afterHistory Sample.world rfl hcatalog hof howned (.inl hpos) Sample.record⟩

end Pipeline

end TelemetryAutomation
