import Mathlib.Algebra.Group.Nat.Defs
import Mathlib.Data.List.Induction
import TelemetryAutomation.Proofs.Pipeline.Served

/-!
# The ledger of runs

The store of runs is a ledger: each call adds entries at its end, numbered from one on, and no entry is ever
changed. Only the runs are carried from one call to the next here, and all else may be different at every
call (`Occasion`). After any number of calls, whether they succeeded or not, the store holds exactly the
entries that they have made.
-/

namespace TelemetryAutomation

variable {σ : Type}

namespace RunStore

/-- The key of a run by its place in the ledger. -/
def keyAt (place : Nat) : Key .run := ⟨.ofNat (place + 1)⟩

/-- The store holds exactly some entries, numbered in their order. -/
structure Lists (store : RunStore) (entries : List RunEntry) : Prop where
  numbered : entries.map (·.run.id) = (List.range entries.length).map keyAt
  runs_eq : store.runs.entries = entries.map fun entry => (entry.run.id, entry.run)
  steps_eq : store.steps.entries = entries.map fun entry => (entry.run.id, entry.steps)
  nextId_eq : store.nextId = (keyAt entries.length).value
  /-- There are no more entries than positive keys. -/
  fits : entries.length < 2 ^ 63
  reliable : store.outages.Reliable

theorem lists_empty : empty.Lists [] :=
  ⟨rfl, rfl, rfl, rfl, by decide, Outages.reliable_none⟩

theorem keyAt_lt {place later : Nat} (hlt : place < later) (hlater : later + 1 < 2 ^ 63) :
    compare (keyAt place) (keyAt later) = .lt := by
  have hplace : place + 1 < 2 ^ 63 := by omega
  show compare (Int64.ofNat (place + 1)) (Int64.ofNat (later + 1)) = .lt
  rw [Std.compare_eq_lt, Int64.lt_iff_toInt_lt, Int64.toInt_ofNat_of_lt hplace,
    Int64.toInt_ofNat_of_lt hlater]
  omega

/-- The last positive key is followed by none. -/
theorem fits_of_key_pos {place : Nat} (hplace : place < 2 ^ 63) (hpos : 0 < (keyAt place).value) :
    place + 1 < 2 ^ 63 := by
  by_contra hlast
  have hplace : place = 2 ^ 63 - 1 := by omega
  subst hplace
  revert hpos
  decide

namespace Lists

variable {store after : RunStore} {entries : List RunEntry}

theorem of_agrees (h : store.Lists entries) (hafter : store.Agrees after) : after.Lists entries :=
  ⟨h.numbered, hafter.runs_eq ▸ h.runs_eq, hafter.steps_eq ▸ h.steps_eq,
    hafter.nextId_eq.trans h.nextId_eq, h.fits, h.reliable.of_plan_eq hafter.plan_eq⟩

/-- The next key is beyond those of the entries. -/
theorem lt_next (h : store.Lists entries) (hfits : entries.length + 1 < 2 ^ 63) :
    ∀ key ∈ entries.map (·.run.id), compare key (keyAt entries.length) = .lt := by
  rw [h.numbered, List.forall_mem_map]
  intro place hplace
  exact keyAt_lt (List.mem_range.mp hplace) hfits

/-- A run under the next key, once it has ended, is a further entry. -/
theorem enter (h : store.Lists entries) (hkey : 0 < store.nextId) {started : Run} {entry : RunEntry}
    (hstarted : started.id = ⟨store.nextId⟩) (hid : entry.run.id = started.id)
    (hafter : ((store.opened started).closed entry.run entry.steps).Agrees after) :
    after.Lists (entries ++ [entry]) := by
  rw [h.nextId_eq] at hkey hstarted
  have hfits := fits_of_key_pos h.fits hkey
  have hnew : entry.run.id = keyAt entries.length := hid.trans hstarted
  have hless := h.lt_next hfits
  have hruns : ∀ key ∈ store.runs.keys, compare key entry.run.id = .lt := by
    rw [SortedMap.keys_eq, h.runs_eq, List.map_map, hnew]
    exact hless
  have hsteps : ∀ key ∈ store.steps.keys, compare key entry.run.id = .lt := by
    rw [SortedMap.keys_eq, h.steps_eq, List.map_map, hnew]
    exact hless
  refine ⟨?_, ?_, ?_, ?_, ?_, h.reliable.of_plan_eq hafter.plan_eq⟩
  · rw [List.map_append, List.length_append, List.length_singleton, List.range_succ, List.map_append,
      h.numbered, List.map_singleton, List.map_singleton, hnew]
  · rw [hafter.runs_eq, store.runs_closed_opened hid, SortedMap.entries_insert_of_lt hruns, h.runs_eq,
      List.map_append, List.map_singleton]
  · -- the run is new, so it has no steps to which others would be added
    have hclosed : ((store.opened started).closed entry.run entry.steps).steps =
        store.steps.insert entry.run.id entry.steps := by
      show store.steps.insert _ ((store.steps.get? entry.run.id).getD [] ++ entry.steps) = _
      rw [SortedMap.get?_of_lt hsteps]
      rfl
    rw [hafter.steps_eq, hclosed, SortedMap.entries_insert_of_lt hsteps, h.steps_eq, List.map_append,
      List.map_singleton]
  · rw [hafter.nextId_eq, List.length_append, List.length_singleton, keyAt, Int64.ofNat_add]
    show store.nextId + 1 = _
    rw [h.nextId_eq]
    rfl
  · rw [List.length_append, List.length_singleton]
    exact hfits

end Lists

end RunStore

namespace Pipeline

variable {pipeline : Pipeline σ} {record : TelemetryRecord} {base state : PipelineState σ}
  {versions done : List (Key .workflowVersion)} {entries made : List RunEntry}

/-- Serving a record adds its entries to the ledger. -/
theorem Served.lists (h : Served pipeline record base done entries state)
    (hmade : base.runs.Lists made) : state.runs.Lists (made ++ entries) := by
  induction h with
  | start looked =>
    rw [looked.runs_eq, List.append_nil]
    exact hmade
  | skip served looked skipped ih =>
    rw [looked.runs_eq]
    exact ih
  | run served looked live enters ih =>
    rw [← looked.runs_eq] at ih
    obtain ⟨answer, left, hexecutes, htells, -⟩ := enters.tells
    rw [← List.append_assoc]
    exact ih.enter enters.key_pos hexecutes.id_eq htells.id_eq enters.runs

/-- What is entered tells of its run. -/
theorem Served.tells (h : Served pipeline record base done entries state) :
    ∀ entry ∈ entries, ∃ started answer, entry.Tells started answer := by
  induction h with
  | start looked => nofun
  | skip served looked skipped ih => exact ih
  | @run _ _ _ _ _ _ _ _ started _ served looked live enters ih =>
    obtain ⟨answer, left, -, htells, -⟩ := enters.tells
    rw [List.forall_mem_append, List.forall_mem_singleton]
    exact ⟨ih, started, answer, htells⟩

/-- A call that breaks off leaves the entries that were made before, since no run is left unended. -/
theorem Broken.lists {after : PipelineState σ} (h : Broken pipeline record base versions after)
    (hmade : base.runs.Lists made) :
    ∃ done entries state, Served pipeline record base done entries state ∧
      after.runs.Lists (made ++ entries) := by
  cases h with
  | @unfound done rest entries state _ id hversions served looked cause =>
    refine ⟨done, entries, state, served, ?_⟩
    rw [looked.runs_eq]
    exact served.lists hmade
  | @unfinished done rest entries state found _ id workflow version hversions served looked live breaks =>
    have hlists := served.lists hmade
    rw [← looked.runs_eq] at hlists
    cases breaks with
    | unstarted elsewhere runs cause => exact ⟨done, entries, state, served, hlists.of_agrees runs⟩
    | unended started answer left executes elsewhere runs cause => exact absurd hlists.reliable cause

end Pipeline

/-! ## Any number of calls -/

/-- A call with all that it works on besides the runs. -/
structure Occasion (σ : Type) where
  pipeline : Pipeline σ
  record : TelemetryRecord
  index : TriggerIndex
  workflows : WorkflowStore
  correlations : CorrelationSource
  world : World σ

namespace Occasion

/-- The state that the call works on. -/
def before (occasion : Occasion σ) (runs : RunStore) : PipelineState σ :=
  ⟨occasion.index, occasion.workflows, runs, occasion.correlations, occasion.world⟩

/-- Handles the record of the call. -/
def handle (occasion : Occasion σ) (runs : RunStore) :
    Except PipelineError (List RunOutcome) × PipelineState σ :=
  occasion.pipeline.handle occasion.record (occasion.before runs)

/-- The entries that the call makes: those of the versions that it comes to. -/
def Makes (occasion : Occasion σ) (runs : RunStore) (entries : List RunEntry) : Prop :=
  ∃ done state, Pipeline.Served occasion.pipeline occasion.record (occasion.before runs) done entries state

/-- **A call adds entries to the ledger**, whether it succeeds or not. No run is ended twice, and a call that
succeeds tells of the entries it has made. -/
theorem handle_makes (occasion : Occasion σ) {runs : RunStore} {made : List RunEntry}
    (hmade : runs.Lists made) :
    ∃ added result after, occasion.Makes runs added ∧ occasion.handle runs = (result, after) ∧
      after.runs.Lists (made ++ added) ∧ (∀ error, result ≠ .error (.run error)) ∧
      ∀ outcomes, result = .ok outcomes → outcomes = added.map RunEntry.outcome := by
  have hends := occasion.pipeline.handle_serves occasion.record (occasion.before runs)
  rcases hhandle : occasion.handle runs with ⟨result, after⟩
  cases result with
  | ok outcomes =>
    obtain ⟨versions, added, -, hserved, rfl⟩ := hends.at_ok hhandle
    refine ⟨added, _, after, ⟨versions, after, hserved⟩, rfl, hserved.lists hmade, nofun, ?_⟩
    rintro _ ⟨⟩
    rfl
  | error error =>
    rcases hends.at_error hhandle with
      ⟨⟨cause, rfl⟩, hlooked, -⟩ | ⟨⟨cause, rfl⟩, versions, -, hbroken⟩
    · have hstart : Pipeline.Served occasion.pipeline occasion.record (occasion.before runs) [] []
          after := .start hlooked
      exact ⟨[], _, after, ⟨[], after, hstart⟩, rfl, hstart.lists hmade, nofun, nofun⟩
    · obtain ⟨done, added, state, hserved, hlists⟩ := hbroken.lists hmade
      exact ⟨added, _, after, ⟨done, state, hserved⟩, rfl, hlists, nofun, nofun⟩

end Occasion

/-- The runs after some calls, of which any may have failed. -/
def runsAfter (history : List (Occasion σ)) : RunStore :=
  history.foldl (fun runs occasion => (occasion.handle runs).2.runs) .empty

theorem runsAfter_append_singleton (history : List (Occasion σ)) (occasion : Occasion σ) :
    runsAfter (history ++ [occasion]) = (occasion.handle (runsAfter history)).2.runs :=
  List.foldl_append

/-- Entries that some calls have made, one call after the other. -/
inductive MadeBy : List (Occasion σ) → List RunEntry → Prop
  | nil : MadeBy [] []
  | call {history : List (Occasion σ)} {occasion : Occasion σ} {made added : List RunEntry}
      (madeBy : MadeBy history made) (makes : occasion.Makes (runsAfter history) added) :
      MadeBy (history ++ [occasion]) (made ++ added)

theorem MadeBy.tells {history : List (Occasion σ)} {made : List RunEntry} (h : MadeBy history made) :
    ∀ entry ∈ made, ∃ started answer, entry.Tells started answer := by
  induction h with
  | nil => nofun
  | call madeBy makes ih =>
    obtain ⟨done, state, hserved⟩ := makes
    exact List.forall_mem_append.mpr ⟨ih, hserved.tells⟩

theorem exists_madeBy (history : List (Occasion σ)) :
    ∃ made, MadeBy history made ∧ (runsAfter history).Lists made := by
  induction history using List.reverseRecOn with
  | nil => exact ⟨[], .nil, RunStore.lists_empty⟩
  | append_singleton history occasion ih =>
    obtain ⟨made, hmadeBy, hmade⟩ := ih
    obtain ⟨added, result, after, hmakes, hhandle, hlists, -⟩ := occasion.handle_makes hmade
    refine ⟨made ++ added, hmadeBy.call hmakes, ?_⟩
    rw [runsAfter_append_singleton, hhandle]
    exact hlists

/-- **The store of runs is a ledger.** After any calls the store holds exactly the entries that they have made,
numbered from one on, and each of them tells of a run that has ended. A further call leaves these entries as
they are and adds its own at the end; it never fails because a run could not be ended, and if it succeeds it
tells of what it has added. -/
theorem runs_afterHistory (history : List (Occasion σ)) (occasion : Occasion σ) :
    ∃ made added result after,
      MadeBy history made ∧ (runsAfter history).Lists made ∧
      occasion.Makes (runsAfter history) added ∧
      occasion.handle (runsAfter history) = (result, after) ∧ after.runs.Lists (made ++ added) ∧
      (∀ entry ∈ made ++ added, ∃ started answer, entry.Tells started answer) ∧
      (∀ error, result ≠ .error (.run error)) ∧
      ∀ outcomes, result = .ok outcomes → outcomes = added.map RunEntry.outcome := by
  obtain ⟨made, hmadeBy, hmade⟩ := exists_madeBy history
  obtain ⟨added, result, after, hmakes, hhandle, hlists, hfinish, houtcomes⟩ :=
    occasion.handle_makes hmade
  exact ⟨made, added, result, after, hmadeBy, hmade, hmakes, hhandle, hlists,
    (hmadeBy.call hmakes).tells, hfinish, houtcomes⟩

end TelemetryAutomation
