import TelemetryAutomation.Proofs.Pipeline.Calls
import TelemetryAutomation.Proofs.Pipeline.Served

/-!
# Only live versions run

The rows of the index may be left over from versions that were replaced or that were never stored, and many
rows may lead to one version. Whatever the index and the stores hold, a record starts at most one run of a
workflow, and that is a run of its live version. Nor does a version keep another from running, except by
taking the last key.
-/

namespace TelemetryAutomation

open Trigger (SetsOff)

variable {σ : Type}

namespace WorkflowStore

/-- Every workflow is stored under its own key, as saving it does. -/
def Keyed (store : WorkflowStore) : Prop :=
  ∀ key workflow, store.workflows.get? key = some workflow → workflow.id = key

theorem keyed_empty : empty.Keyed := nofun

theorem Keyed.insert {store : WorkflowStore} (h : store.Keyed) (workflow : Workflow) :
    Keyed { store with workflows := store.workflows.insert workflow.id workflow } :=
  fun _ _ => SortedMap.forall_get?_insert h rfl

/-- Runs of stored workflows, each of the version that is active there and stored. No two of them are runs of
one workflow, and the versions ascend. -/
structure OnlyLive (store : WorkflowStore) (runs : List Run) : Prop where
  ascending : (runs.map (·.workflowVersion)).Pairwise (compare · · = .lt)
  distinct : (runs.map (·.workflow)).Nodup
  live : ∀ run ∈ runs, ∃ workflow version, store.workflows.get? run.workflow = some workflow ∧
    workflow.activeVersion = some run.workflowVersion ∧
      store.versions.get? run.workflowVersion = some version ∧ version.workflow = run.workflow

/-- A workflow has one active version, so runs of different live versions are runs of different
workflows. -/
theorem Keyed.onlyLive {store : WorkflowStore} (hkeyed : store.Keyed) {runs : List Run}
    (hascending : (runs.map (·.workflowVersion)).Pairwise (compare · · = .lt))
    (hlive : ∀ run ∈ runs, ∃ workflow version,
      store.Live run.workflowVersion workflow version ∧ run.workflow = workflow.id) :
    store.OnlyLive runs := by
  have hstored : ∀ run ∈ runs, ∃ workflow version, store.workflows.get? run.workflow = some workflow ∧
      workflow.activeVersion = some run.workflowVersion ∧
        store.versions.get? run.workflowVersion = some version ∧ version.workflow = run.workflow := by
    intro run hrun
    obtain ⟨workflow, version, h, hworkflow⟩ := hlive run hrun
    have hkey : version.workflow = run.workflow := by
      rw [hworkflow, hkeyed _ _ h.workflow_eq]
    refine ⟨workflow, version, ?_, h.active_eq, h.version_eq, hkey⟩
    rw [← hkey]
    exact h.workflow_eq
  refine ⟨hascending, ?_, hstored⟩
  rw [List.Nodup, List.pairwise_map]
  rw [List.pairwise_map] at hascending
  apply hascending.imp_of_mem
  intro first second hfirst hsecond hless heq
  obtain ⟨workflow, _, hworkflow, hactive, -⟩ := hstored first hfirst
  obtain ⟨workflow', _, hworkflow', hactive', -⟩ := hstored second hsecond
  rw [heq, hworkflow', Option.some.injEq] at hworkflow
  rw [hworkflow, hactive, Option.some.injEq] at hactive'
  rw [hactive', Std.compare_self] at hless
  cases hless

end WorkflowStore

/-- After any calls on empty tables, every workflow is stored under its own key. -/
theorem keyed_afterCalls {start : PipelineState σ} (hstart : start.tables = .empty)
    (calls : List (Call σ)) : (start.afterCalls calls).workflows.Keyed := by
  intro key workflow hworkflow
  obtain ⟨p, -, hkey, rfl⟩ := (attributed_afterCalls hstart calls).workflow key workflow hworkflow
  exact hkey

/-- One run after the other was created, each under the next key. -/
structure RunStore.Created (before : RunStore) (runs : List Run) (after : RunStore) : Prop where
  runs_eq : after.runs = runs.foldl (fun stored run => stored.insert run.id run) before.runs
  nextId_eq : after.nextId = before.nextId + .ofNat runs.length
  plan_eq : after.outages.plan = before.outages.plan

namespace RunStore.Created

variable {before middle after : RunStore} {runs : List Run} {run : Run}

theorem refl (store : RunStore) : store.Created [] store :=
  ⟨rfl, (Int64.add_zero _).symm, rfl⟩

theorem opened (h : before.Created runs middle) (hafter : (middle.opened run).Agrees after) :
    before.Created (runs ++ [run]) after := by
  refine ⟨?_, ?_, hafter.plan_eq.trans h.plan_eq⟩
  · rw [hafter.runs_eq, List.foldl_append, ← h.runs_eq]
    rfl
  · rw [hafter.nextId_eq, List.length_append, List.length_singleton, Int64.ofNat_add,
      ← Int64.add_assoc, ← h.nextId_eq]
    rfl

theorem closed {started : Run} {steps : List RunStep} (h : before.Created runs middle)
    (hid : run.id = started.id)
    (hafter : ((middle.opened started).closed run steps).Agrees after) :
    before.Created (runs ++ [run]) after := by
  refine ⟨?_, hafter.nextId_eq.trans ?_, hafter.plan_eq.trans h.plan_eq⟩
  · rw [hafter.runs_eq, middle.runs_closed_opened hid, List.foldl_append, ← h.runs_eq]
    rfl
  · rw [List.length_append, List.length_singleton, Int64.ofNat_add, ← Int64.add_assoc,
      ← h.nextId_eq]
    rfl

end RunStore.Created

namespace Pipeline

variable {pipeline : Pipeline σ} {record : TelemetryRecord} {base state : PipelineState σ}
  {done versions : List (Key .workflowVersion)} {entries : List RunEntry}

/-! ## The runs behind the entries -/

theorem Served.agrees (h : Served pipeline record base done entries state) :
    base.workflows.Agrees state.workflows := by
  induction h with
  | start looked => exact looked.workflows
  | skip served looked skipped ih => exact ih.trans looked.workflows
  | run served looked live enters ih =>
    rw [enters.elsewhere.workflows_eq]
    exact ih.trans looked.workflows

/-- Every entry is that of one of the versions, in their order. -/
theorem Served.sublist (h : Served pipeline record base done entries state) :
    (entries.map (·.run.workflowVersion)).Sublist done := by
  induction h with
  | start looked => exact .slnil
  | skip served looked skipped ih => exact ih.trans (List.sublist_append_left _ _)
  | run served looked live enters ih =>
    rw [List.map_append, List.map_singleton, enters.isRunOf.1]
    exact ih.append (.refl _)

/-- Whatever was run was live at the beginning. -/
theorem Served.live (h : Served pipeline record base done entries state) :
    ∀ entry ∈ entries, ∃ workflow version,
      base.workflows.Live entry.run.workflowVersion workflow version ∧
        entry.run.workflow = workflow.id := by
  induction h with
  | start looked => nofun
  | skip served looked skipped ih => exact ih
  | @run _ _ _ _ _ id workflow version _ entry served looked live enters ih =>
    obtain ⟨hversion, hworkflow, -⟩ := enters.isRunOf
    rw [List.forall_mem_append, List.forall_mem_singleton, hversion]
    exact ⟨ih, workflow, version, served.agrees.live_iff.mp live, hworkflow⟩

/-- Whatever was live was run, unless the store lags. -/
theorem Served.complete (h : Served pipeline record base done entries state)
    (hcurrent : base.workflows.lags = false) :
    ∀ id ∈ done, ∀ workflow version, base.workflows.Live id workflow version →
      id ∈ entries.map (·.run.workflowVersion) := by
  induction h with
  | start looked => nofun
  | skip served looked skipped ih =>
    rw [List.forall_mem_append, List.forall_mem_singleton]
    refine ⟨ih, ?_⟩
    intro workflow version hlive
    have hcurrent' := served.agrees.lags_eq.trans hcurrent
    exact absurd (served.agrees.live_iff.mpr hlive) (skipped hcurrent' workflow version)
  | run served looked live enters ih =>
    rw [List.forall_mem_append, List.forall_mem_singleton, List.map_append, List.map_singleton]
    constructor
    · intro id hid workflow version hlive
      exact List.mem_append_left _ (ih id hid workflow version hlive)
    · intro _ _ _
      rw [enters.isRunOf.1]
      exact List.mem_append_right _ (List.mem_singleton_self _)

theorem Served.created (h : Served pipeline record base done entries state) :
    base.runs.Created (entries.map (·.run)) state.runs := by
  induction h with
  | start looked =>
    rw [looked.runs_eq]
    exact .refl _
  | skip served looked skipped ih =>
    rw [looked.runs_eq]
    exact ih
  | run served looked live enters ih =>
    rw [← looked.runs_eq] at ih
    obtain ⟨answer, left, -, htells, -⟩ := enters.tells
    rw [List.map_append]
    exact ih.closed htells.id_eq enters.runs

/-- The runs that a call has started for some versions, whether it succeeded or not. -/
structure Starting (base : PipelineState σ) (versions : List (Key .workflowVersion)) (runs : List Run)
    (after : PipelineState σ) : Prop where
  created : base.runs.Created runs after.runs
  sublist : (runs.map (·.workflowVersion)).Sublist versions
  live : ∀ run ∈ runs, ∃ workflow version,
    base.workflows.Live run.workflowVersion workflow version ∧ run.workflow = workflow.id

theorem Served.starting (h : Served pipeline record base done entries state) :
    Starting base done (entries.map (·.run)) state := by
  refine ⟨h.created, ?_, ?_⟩
  · rw [List.map_map]
    exact h.sublist
  · exact List.forall_mem_map.mpr h.live

theorem Starting.onlyLive {runs : List Run} {after : PipelineState σ}
    (h : Starting base versions runs after) (hkeyed : base.workflows.Keyed)
    (hascending : versions.Pairwise (compare · · = .lt)) : base.workflows.OnlyLive runs :=
  hkeyed.onlyLive (hascending.sublist h.sublist) h.live

/-- A call that breaks off has started the runs of the versions before, and it may have started one more. -/
theorem Broken.starting {after : PipelineState σ} (h : Broken pipeline record base versions after) :
    ∃ runs, Starting base versions runs after := by
  cases h with
  | @unfound done rest entries state _ id hversions served looked cause =>
    have hbefore := served.starting
    refine ⟨_, ?_, hbefore.sublist.trans ?_, hbefore.live⟩
    · rw [looked.runs_eq]
      exact hbefore.created
    · rw [hversions]
      exact List.sublist_append_left _ _
  | @unfinished done rest entries state found _ id workflow version hversions served looked live breaks =>
    have hbefore := served.starting
    have hcreated := hbefore.created
    rw [← looked.runs_eq] at hcreated
    cases breaks with
    | unstarted elsewhere runs cause =>
      refine ⟨_, ⟨runs.runs_eq.trans hcreated.runs_eq, runs.nextId_eq.trans hcreated.nextId_eq,
        runs.plan_eq.trans hcreated.plan_eq⟩, hbefore.sublist.trans ?_, hbefore.live⟩
      rw [hversions]
      exact List.sublist_append_left _ _
    | unended started answer left executes elsewhere runs cause =>
      obtain ⟨hversion, hworkflow, -⟩ := executes.isRunOf
      refine ⟨entries.map (·.run) ++ [started], hcreated.opened runs, ?_, ?_⟩
      · rw [List.map_append, List.map_singleton, hversion, hversions, List.append_cons done id rest]
        exact (hbefore.sublist.append (.refl _)).trans (List.sublist_append_left _ _)
      · rw [List.forall_mem_append, List.forall_mem_singleton, hversion, hworkflow]
        exact ⟨hbefore.live, workflow, version, served.agrees.live_iff.mp live, rfl⟩

/-! ## What keeps a version from running -/

/-- Nothing keeps a record from being handled: no store fails, its device can be looked up, and there are as
many keys for runs as there are rows. -/
structure Unhindered (pipeline : Pipeline σ) (record : TelemetryRecord) (state : PipelineState σ) :
    Prop where
  index : state.index.outages.Reliable
  workflows : state.workflows.outages.Reliable
  runs : state.runs.outages.Reliable
  device : ∃ found, pipeline.services.catalog.device record.device = .ok found
  key_pos : 0 < state.runs.nextId
  keys : state.runs.nextId.toInt + state.index.rows.length < 2 ^ 63

/-- Keys go on being positive for some time. -/
theorem pos_add_ofNat {key : Int64} {n : Nat} (hkey : 0 < key) (hn : key.toInt + n < 2 ^ 63) :
    0 < key + .ofNat n := by
  rw [Int64.lt_iff_toInt_lt, Int64.toInt_zero] at hkey
  have hsmall : n < 2 ^ 63 := by omega
  rw [Int64.lt_iff_toInt_lt, Int64.toInt_add, Int64.toInt_ofNat_of_lt hsmall, Int64.toInt_zero]
  rw [Int.bmod_eq_of_le (by omega) (by omega)]
  omega

theorem Matched.length_le (h : pipeline.Matched record state versions) :
    versions.length ≤ state.index.rows.length := by
  have hsubset : versions ⊆ state.index.rows.map (·.workflowVersion) := by
    intro id hid
    obtain ⟨-, device, -, row, hrow, -, -, hversion⟩ := (h.mem_iff id).mp hid
    exact List.mem_map.mpr ⟨row, hrow, hversion⟩
  have hle := (nodup_of_ascending h.ascending).length_le_of_subset hsubset
  rwa [List.length_map] at hle

/-- A call that nothing hinders does not break off. -/
theorem Broken.not_unhindered {after : PipelineState σ}
    (h : Broken pipeline record base versions after)
    (hmatched : pipeline.Matched record base versions) : ¬ pipeline.Unhindered record base := by
  intro hunhindered
  cases h with
  | unfound hversions served looked cause =>
    exact cause (hunhindered.workflows.of_plan_eq served.agrees.plan_eq)
  | @unfinished done rest entries state found _ id workflow version hversions served looked live breaks =>
    have hcreated := served.created
    rw [← looked.runs_eq] at hcreated
    have hreliable := hunhindered.runs.of_plan_eq hcreated.plan_eq
    cases breaks with
    | unstarted elsewhere runs cause =>
      apply cause hreliable
      rw [hcreated.nextId_eq, List.length_map]
      apply pos_add_ofNat hunhindered.key_pos
      -- each entry has a version of its own, and each version a row
      have hentries : entries.length ≤ done.length := by
        have hle := served.sublist.length_le
        rwa [List.length_map] at hle
      have hdone : done.length ≤ versions.length := by
        rw [hversions, List.length_append]
        omega
      have hrows := hmatched.length_le
      have hkeys := hunhindered.keys
      omega
    | unended started answer left executes elsewhere runs cause => exact cause hreliable

/-! ## Handling a record -/

/-- **At most one run of a workflow, and only of its live version.** Whatever the index, the stores and the
outages are, the runs that a call starts are runs of different workflows, each of the live version, and the
versions ascend. A call that succeeds tells of exactly these runs, and every live version that the record sets
off has got one, whatever came of the others; and a call that nothing hinders succeeds. -/
theorem handle_onlyLive (pipeline : Pipeline σ) (record : TelemetryRecord) {state : PipelineState σ}
    (hkeyed : state.workflows.Keyed) :
    ∃ result after started, pipeline.handle record state = (result, after) ∧
      state.runs.Created started after.runs ∧ state.workflows.OnlyLive started ∧
      (∀ outcomes, result = .ok outcomes → outcomes.map (·.run) = started ∧
        (pipeline.enabled → state.workflows.lags = false → ∀ id,
          id ∈ started.map (·.workflowVersion) ↔
            SetsOff pipeline.services.catalog pipeline.services.evaluate state.index record id ∧
              ∃ workflow version, state.workflows.Live id workflow version)) ∧
      (pipeline.Unhindered record state → ∃ outcomes, result = .ok outcomes) := by
  have hends := pipeline.handle_serves record state
  rcases hhandle : pipeline.handle record state with ⟨result, after⟩
  refine ⟨result, after, ?_⟩
  cases result with
  | ok outcomes =>
    obtain ⟨versions, entries, hmatched, hserved, rfl⟩ := hends.at_ok hhandle
    have hstarting := hserved.starting
    refine ⟨entries.map (·.run), rfl, hstarting.created,
      hstarting.onlyLive hkeyed hmatched.ascending, ?_, fun _ => ⟨_, rfl⟩⟩
    rintro _ ⟨⟩
    refine ⟨List.map_map, ?_⟩
    intro henabled hcurrent id
    rw [List.map_map]
    constructor
    · intro hid
      obtain ⟨entry, hentry, rfl⟩ := List.mem_map.mp hid
      obtain ⟨workflow, version, hlive, -⟩ := hserved.live entry hentry
      have hmem := hserved.sublist.subset (List.mem_map_of_mem hentry)
      exact ⟨((hmatched.mem_iff _).mp hmem).2, workflow, version, hlive⟩
    · rintro ⟨hsets, workflow, version, hlive⟩
      have hid := (hmatched.mem_iff id).mpr ⟨henabled, hsets⟩
      exact hserved.complete hcurrent id hid workflow version hlive
  | error error =>
    rcases hends.at_error hhandle with ⟨-, hlooked, hunfound⟩ | ⟨-, versions, hmatched, hbroken⟩
    · refine ⟨[], rfl, ?_, ⟨.nil, .nil, nofun⟩, nofun, ?_⟩
      · rw [hlooked.runs_eq]
        exact .refl _
      · intro hunhindered
        obtain ⟨found, hfound⟩ := hunhindered.device
        exact absurd hfound (hunfound hunhindered.index found)
    · obtain ⟨runs, hstarting⟩ := hbroken.starting
      exact ⟨runs, rfl, hstarting.created, hstarting.onlyLive hkeyed hmatched.ascending, nofun,
        fun hunhindered => absurd hunhindered (hbroken.not_unhindered hmatched)⟩

end Pipeline

/-! ## An index out of step with the stores -/

namespace Sample

/-- A row of a version that covers every record of the organization. -/
def wildcard (version : Key .workflowVersion) : TriggerRow := ⟨⟨1⟩, version, none, none, none, none⟩

/-- Two workflows, of which the first has an active version that is no graph and a version that was
replaced. -/
def jumbled : WorkflowStore where
  workflows := .ofList [(⟨1⟩, { workflow with activeVersion := some ⟨3⟩ }),
    (⟨2⟩, { workflow with id := ⟨2⟩, activeVersion := some ⟨5⟩ })]
  versions := .ofList [(⟨2⟩, { versionOf nameless with id := ⟨2⟩ }),
    (⟨3⟩, { versionOf nameless with id := ⟨3⟩, graph := .str "" }),
    (⟨5⟩, { versionOf nameless with id := ⟨5⟩, workflow := ⟨2⟩ })]
  lags := false
  outages := .none

/-- Rows of both active versions, one of them twice, and rows of versions that were replaced or never
stored. -/
def misled : PipelineState Recorder :=
  { PipelineState.new world with
    index := ⟨[wildcard ⟨9⟩, wildcard ⟨5⟩, wildcard ⟨2⟩, wildcard ⟨3⟩,
      { wildcard ⟨5⟩ with device := some ⟨1⟩ }], .none⟩
    workflows := jumbled }

theorem keyed_jumbled : jumbled.Keyed :=
  (WorkflowStore.keyed_empty.insert { workflow with activeVersion := some ⟨3⟩ }).insert
    { workflow with id := ⟨2⟩, activeVersion := some ⟨5⟩ }

end Sample

namespace Pipeline

theorem handle_misled : Sample.misled.workflows.Keyed ∧
    ∃ result after started, Sample.pipeline.handle Sample.record Sample.misled = (result, after) ∧
      Sample.misled.runs.Created started after.runs ∧ Sample.misled.workflows.OnlyLive started ∧
      (∀ outcomes, result = .ok outcomes → outcomes.map (·.run) = started ∧
        (Sample.pipeline.enabled → Sample.misled.workflows.lags = false → ∀ id,
          id ∈ started.map (·.workflowVersion) ↔
            SetsOff Sample.pipeline.services.catalog Sample.pipeline.services.evaluate
              Sample.misled.index Sample.record id ∧
              ∃ workflow version, Sample.misled.workflows.Live id workflow version)) ∧
      (Sample.pipeline.Unhindered Sample.record Sample.misled → ∃ outcomes, result = .ok outcomes) ∧
      result.toOption.map (·.map (·.run.workflowVersion)) = some [⟨3⟩, ⟨5⟩] := by
  have hkeyed : Sample.misled.workflows.Keyed := Sample.keyed_jumbled
  obtain ⟨result, after, started, hhandle, hcreated, honly, hcomplete, hunhindered⟩ :=
    handle_onlyLive Sample.pipeline Sample.record hkeyed
  refine ⟨hkeyed, result, after, started, hhandle, hcreated, honly, hcomplete, hunhindered, ?_⟩
  -- the version that is no graph has a run as well
  have hresult : result = (Sample.pipeline.handle Sample.record Sample.misled).1 := by rw [hhandle]
  rw [hresult]
  decide +kernel

end Pipeline

end TelemetryAutomation
