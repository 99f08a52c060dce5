import TelemetryAutomation.Proofs.Pipeline.Entries

/-!
# Serving a record

A record is served version by version: those that it sets off are considered in ascending order, and each
that is live is run and leaves an entry. `Served` follows the versions, so whatever is kept by one of its
steps holds of all that a call has done. The call ends when all versions have been considered, or where a
store fails (`handle_serves`).
-/

namespace TelemetryAutomation

open Trigger (SetsOff)

variable {σ : Type}

namespace Pipeline

variable {pipeline : Pipeline σ} {record : TelemetryRecord} {base state : PipelineState σ}

/-! ## Versions and their entries -/

/-- The versions that a record sets off. A disabled pipeline is set off by nothing. -/
structure Matched (pipeline : Pipeline σ) (record : TelemetryRecord) (state : PipelineState σ)
    (versions : List (Key .workflowVersion)) : Prop where
  ascending : versions.Pairwise (compare · · = .lt)
  mem_iff : ∀ id, id ∈ versions ↔ pipeline.enabled ∧
    SetsOff pipeline.services.catalog pipeline.services.evaluate state.index record id

/-- A version was looked up, which changes nothing that is stored. -/
structure Looked (before after : PipelineState σ) : Prop where
  workflows : before.workflows.Agrees after.workflows
  runs_eq : after.runs = before.runs
  world_eq : after.world = before.world

/-- How far a record has been served: the versions that have been considered, and the entries that those of
them have left that were live. -/
inductive Served (pipeline : Pipeline σ) (record : TelemetryRecord) (base : PipelineState σ) :
    List (Key .workflowVersion) → List RunEntry → PipelineState σ → Prop
  | start {state : PipelineState σ} (looked : Looked base state) : Served pipeline record base [] [] state
  | skip {done : List (Key .workflowVersion)} {entries : List RunEntry} {state after : PipelineState σ}
      {id : Key .workflowVersion} (served : Served pipeline record base done entries state)
      (looked : Looked state after)
      (skipped : state.workflows.lags = false → ∀ workflow version,
        ¬ state.workflows.Live id workflow version) :
      Served pipeline record base (done ++ [id]) entries after
  | run {done : List (Key .workflowVersion)} {entries : List RunEntry}
      {state found after : PipelineState σ} {id : Key .workflowVersion} {workflow : Workflow}
      {version : WorkflowVersion} {started : Run} {entry : RunEntry}
      (served : Served pipeline record base done entries state) (looked : Looked state found)
      (live : state.workflows.Live id workflow version)
      (enters : pipeline.Enters workflow id version record found started entry after) :
      Served pipeline record base (done ++ [id]) (entries ++ [entry]) after

/-- Serving a record broke off at a version, which could not be looked up or not be run. -/
inductive Broken (pipeline : Pipeline σ) (record : TelemetryRecord) (base : PipelineState σ)
    (versions : List (Key .workflowVersion)) : PipelineState σ → Prop
  | unfound {done rest : List (Key .workflowVersion)} {entries : List RunEntry}
      {state after : PipelineState σ} {id : Key .workflowVersion}
      (versions_eq : versions = done ++ id :: rest)
      (served : Served pipeline record base done entries state) (looked : Looked state after)
      (cause : ¬ state.workflows.outages.Reliable) : Broken pipeline record base versions after
  | unfinished {done rest : List (Key .workflowVersion)} {entries : List RunEntry}
      {state found after : PipelineState σ} {id : Key .workflowVersion} {workflow : Workflow}
      {version : WorkflowVersion} (versions_eq : versions = done ++ id :: rest)
      (served : Served pipeline record base done entries state) (looked : Looked state found)
      (live : state.workflows.Live id workflow version)
      (breaks : pipeline.BreaksOff workflow id version record found after) :
      Broken pipeline record base versions after

/-! ## What a call does -/

/-- Considering one more version runs it if it is live. -/
theorem runIfLive_serves {versions done rest : List (Key .workflowVersion)} {entries : List RunEntry}
    {id : Key .workflowVersion} (event : CorrelationId) (hversions : versions = done ++ id :: rest)
    (hserved : Served pipeline record base done entries state) :
    Ends (pipeline.runIfLive record event id) state
      (fun found after => ∃ entry : Option RunEntry, found = entry.map RunEntry.outcome ∧
        Served pipeline record base (done ++ [id]) (entries ++ entry.toList) after)
      fun error after => (∃ cause, error = .repository cause) ∧
        Broken pipeline record base versions after := by
  unfold runIfLive
  apply (liveVersion?_finds state id).bind_mono
  · rintro found _ ⟨hfound, store, hstore, rfl⟩
    have hlooked : Looked state { state with workflows := store } := ⟨hstore, rfl, rfl⟩
    cases found with
    | none =>
      refine .pure ⟨none, rfl, ?_⟩
      have hskipped : state.workflows.lags = false → ∀ workflow version,
          ¬ state.workflows.Live id workflow version := by
        intro hcurrent workflow version hlive
        have hsome := (hfound workflow version).mpr ⟨hcurrent, hlive⟩
        cases hsome
      rw [Option.toList_none, List.append_nil]
      exact hserved.skip hlooked hskipped
    | some live =>
      obtain ⟨workflow, version⟩ := live
      obtain ⟨-, hlive⟩ := (hfound workflow version).mp rfl
      apply (runVersion_enters workflow id version record event _).bind_mono
      · rintro _ after ⟨started, entry, henters, rfl⟩
        exact .pure ⟨some entry, rfl, hserved.run hlooked hlive henters⟩
      · rintro error after ⟨hcause, hbreaks⟩
        exact ⟨hcause, .unfinished hversions hserved hlooked hlive hbreaks⟩
  · rintro error _ ⟨hcause, hunreliable, store, hstore, rfl⟩
    exact ⟨hcause, .unfound hversions hserved ⟨hstore, rfl, rfl⟩ hunreliable⟩

/-- **A record is served version by version.** A call ends when all versions that the record sets off have
been considered, and tells of the entries that they left. It fails before the first of them if they cannot be
found, and at one of them if a store fails. -/
theorem handle_serves (pipeline : Pipeline σ) (record : TelemetryRecord) (state : PipelineState σ) :
    Ends (pipeline.handle record) state
      (fun outcomes after => ∃ versions entries, pipeline.Matched record state versions ∧
        Served pipeline record state versions entries after ∧ outcomes = entries.map RunEntry.outcome)
      fun error after =>
        (∃ cause, error = .index cause) ∧ Looked state after ∧
            (state.index.outages.Reliable →
              ∀ found, pipeline.services.catalog.device record.device ≠ .ok found) ∨
          (∃ cause, error = .repository cause) ∧ ∃ versions,
            pipeline.Matched record state versions ∧ Broken pipeline record state versions after := by
  unfold handle
  by_cases henabled : pipeline.enabled
  · rw [if_pos henabled]
    let event := state.correlations.draw.1
    let drawn : PipelineState σ := { state with correlations := state.correlations.draw.2 }
    apply Ends.bind_of_ok (rfl : PipelineAction.drawCorrelation state = (.ok event, drawn))
    have hmatching : Ends (PipelineAction.onIndex (Trigger.matching pipeline.services.catalog
        pipeline.services.evaluate record)) drawn _ _ :=
      PipelineAction.onIndex_ends (Trigger.matching_ends _ _ record state.index)
    apply hmatching.bind_mono
    · rintro versions _ ⟨index, ⟨-, hascending, hversions⟩, rfl⟩
      have hmatched : pipeline.Matched record state versions :=
        ⟨hascending, fun id => (hversions id).trans (by simp [henabled])⟩
      have hlooked : Looked state { drawn with index } := ⟨.refl _, rfl, rfl⟩
      -- the results of the versions that are done tell of the entries that there are
      let invariant (done : List (Key .workflowVersion)) (found : List (Option RunOutcome))
          (after : PipelineState σ) : Prop :=
        ∃ entries, Served pipeline record state done entries after ∧
          found.filterMap id = entries.map RunEntry.outcome
      have hserves : Ends (versions.mapM (pipeline.runIfLive record event)) { drawn with index }
          (invariant versions)
          fun error after => (∃ cause, error = .repository cause) ∧
            Broken pipeline record state versions after := by
        refine .mapM_done ?_ ⟨[], .start hlooked, rfl⟩
        rintro done id rest hitems found before ⟨entries, hserved, hfound⟩
        apply (runIfLive_serves event hitems hserved).mono
        · rintro _ after ⟨entry, rfl, hserved'⟩
          refine ⟨entries ++ entry.toList, hserved', ?_⟩
          rw [List.filterMap_append, hfound, List.map_append]
          cases entry <;> rfl
        · exact fun _ _ hbroken => hbroken
      apply hserves.bind_mono
      · rintro found after ⟨entries, hserved, hfound⟩
        exact .pure ⟨versions, entries, hmatched, hserved, hfound⟩
      · rintro error after ⟨hcause, hbroken⟩
        exact .inr ⟨hcause, versions, hmatched, hbroken⟩
    · rintro error _ ⟨hcause, index, ⟨-, hunfound⟩, rfl⟩
      exact .inl ⟨hcause, ⟨.refl _, rfl, rfl⟩, hunfound⟩
  · rw [if_neg henabled]
    refine .pure ⟨[], [], ⟨.nil, ?_⟩, .start ⟨.refl _, rfl, rfl⟩, rfl⟩
    simp [henabled]

end Pipeline

end TelemetryAutomation
