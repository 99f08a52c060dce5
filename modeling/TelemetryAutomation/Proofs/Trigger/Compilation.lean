import TelemetryAutomation.Proofs.Repetitions
import TelemetryAutomation.Proofs.Trigger.Rows

/-!
# What a compilation leaves in the index

A compilation looks at the triggers of a graph in their order and keeps the sources that the catalog can
resolve. Of those with the same device and topic the first one has the row. The rows take the place of those
that the version had, and no other version is touched.

Main result: `compile_replaces`. It rests on `standFor_foldl_addRow`, which says what the rows of a list of
sources are.
-/

namespace TelemetryAutomation.Trigger

variable {catalog : Catalog} {organization : Key .organization} {version : Key .workflowVersion}
  {node : Node} {graph : Graph}

/-! ## Sources -/

/-- The source of a trigger that waits for events, if the catalog resolves all of it. -/
def resolved? (catalog : Catalog) (organization : Key .organization) (node : Node) :
    Option TriggerSource :=
  (eventSource? node).bind fun (device, topic, parameter) =>
    (catalog.resolveTriggerSource organization device topic parameter).toOption

/-- The catalog does not answer when the source of a trigger is resolved. -/
def Unanswered (catalog : Catalog) (organization : Key .organization) (node : Node)
    (error : CatalogError) : Prop :=
  ∃ device topic parameter, eventSource? node = some (device, topic, parameter) ∧
    catalog.resolveTriggerSource organization device topic parameter = .error (.catalog error)

/-- A trigger has the row of its source, unless the catalog does not answer. -/
theorem row?_cases (catalog : Catalog) (organization : Key .organization)
    (version : Key .workflowVersion) (node : Node) :
    match row? catalog organization version node with
    | .ok found => found = (resolved? catalog organization node).map (rowOf organization version)
    | .error error => Unanswered catalog organization node error := by
  cases hevent : eventSource? node with
  | none => simp [row?, resolved?, hevent]
  | some keys =>
    obtain ⟨device, topic, parameter⟩ := keys
    cases hresolved : catalog.resolveTriggerSource organization device topic parameter with
    | ok source => simp [row?, resolved?, hevent, hresolved, Except.toOption]
    | error error =>
      cases error with
      | catalog cause =>
        simp only [row?, hevent, hresolved]
        exact ⟨device, topic, parameter, hevent, hresolved⟩
      | _ => simp [row?, resolved?, hevent, hresolved, Except.toOption]

/-- The sources of the triggers of a graph, in their order. -/
def sourcesOf (catalog : Catalog) (organization : Key .organization) (graph : Graph) :
    List TriggerSource :=
  graph.telemetryTriggers.filterMap (resolved? catalog organization)

/-- The rows of a graph are those of its sources. -/
theorem rows_cases (catalog : Catalog) (organization : Key .organization)
    (version : Key .workflowVersion) (graph : Graph) :
    match rows catalog organization version graph with
    | .ok compiled => compiled =
        ((sourcesOf catalog organization graph).map (rowOf organization version)).foldl addRow []
    | .error error => ∃ node ∈ graph.telemetryTriggers, Unanswered catalog organization node error := by
  unfold rows
  cases hfound : graph.telemetryTriggers.mapM (row? catalog organization version) with
  | error error =>
    obtain ⟨node, hnode, herror⟩ := Success.exists_of_mapM_eq_error hfound
    have hcases := row?_cases catalog organization version node
    rw [herror] at hcases
    exact ⟨node, hnode, hcases⟩
  | ok found =>
    let rowAt (node : Node) : Option TriggerRow :=
      (resolved? catalog organization node).map (rowOf organization version)
    have hrows : List.Forall₂ (fun node row? => rowAt node = row?) graph.telemetryTriggers found := by
      refine (Success.mapM_eq_ok.mp hfound).imp fun node row hrow => ?_
      have hcases := row?_cases catalog organization version node
      rw [hrow] at hcases
      exact hcases.symm
    obtain rfl : graph.telemetryTriggers.map rowAt = found :=
      List.forall₂_eq_eq_eq ▸ List.forall₂_map_left_iff.mpr hrows
    show List.foldl addRow [] _ = _
    rw [List.filterMap_map, Function.id_comp, sourcesOf, List.map_filterMap]

/-! ## Rows of sources -/

/-- The device and the topic of a source, as a row names them. -/
def placeOf (source : TriggerSource) : Option (Key .device) × Option (Key .topic) :=
  (some source.device.id, some source.topic.id)

/-- Rows stand for sources. There is one for each device and topic, in the order in which these come up first,
and it tells of the first source that has them. -/
structure StandFor (organization : Key .organization) (version : Key .workflowVersion)
    (sources : List TriggerSource) (rows : List TriggerRow) : Prop where
  places_eq : rows.map sourceOf = (sources.map placeOf).eraseDups
  of_source : ∀ row ∈ rows, ∃ source,
    sources.find? (placeOf · = sourceOf row) = some source ∧
      row = {
        organization
        workflowVersion := version
        device := some source.device.id
        deviceType := some source.device.deviceType
        topic := some source.topic.id
        filter := none }

namespace StandFor

variable {sources : List TriggerSource} {rows : List TriggerRow}

theorem mem_places (h : StandFor organization version sources rows) {source : TriggerSource} :
    placeOf source ∈ rows.map sourceOf ↔ placeOf source ∈ sources.map placeOf := by
  rw [h.places_eq, List.mem_eraseDups]

/-- What was found first stays the first if more sources come up. -/
theorem find?_append (h : StandFor organization version sources rows) (more : List TriggerSource) :
    ∀ row ∈ rows, ∃ source, (sources ++ more).find? (placeOf · = sourceOf row) = some source ∧
      row = rowOf organization version source := by
  intro row hrow
  obtain ⟨source, hfind, hrow⟩ := h.of_source row hrow
  refine ⟨source, ?_, hrow⟩
  rw [List.find?_append, hfind, Option.some_or]

/-- One more source: it has a row unless there is one for its device and topic. -/
theorem addRow (h : StandFor organization version sources rows) (source : TriggerSource) :
    StandFor organization version (sources ++ [source])
      (Trigger.addRow rows (rowOf organization version source)) := by
  by_cases hplace : placeOf source ∈ rows.map sourceOf
  · rw [addRow_of_mem hplace]
    refine ⟨?_, h.find?_append _⟩
    rw [h.places_eq, List.map_append, List.map_singleton,
      eraseDups_concat_of_mem (h.mem_places.mp hplace)]
  · rw [addRow_of_not_mem hplace]
    have hnew := mt h.mem_places.mpr hplace
    constructor
    · rw [List.map_append, h.places_eq, List.map_append, List.map_singleton, List.map_singleton,
        eraseDups_concat_of_not_mem hnew]
      rfl
    · rw [List.forall_mem_append, List.forall_mem_singleton]
      refine ⟨h.find?_append _, source, ?_, rfl⟩
      have hnone : sources.find? (placeOf · = placeOf source) = none := by
        rw [List.find?_eq_none]
        intro other hother hsame
        exact hnew (List.mem_map.mpr ⟨other, hother, of_decide_eq_true hsame⟩)
      show (sources ++ [source]).find? (placeOf · = placeOf source) = some source
      rw [List.find?_append, hnone, Option.none_or, List.find?_singleton]
      exact if_pos (decide_eq_true rfl)

end StandFor

theorem standFor_foldl_addRow (organization : Key .organization) (version : Key .workflowVersion)
    (sources : List TriggerSource) :
    StandFor organization version sources
      ((sources.map (rowOf organization version)).foldl addRow []) := by
  induction sources using List.reverseRecOn with
  | nil => exact ⟨rfl, nofun⟩
  | append_singleton sources source ih =>
    rw [List.map_append, List.foldl_append]
    exact ih.addRow source

/-! ## Compilations -/

/-- Compiling replaces the rows of a version and counts the old and the new ones. Only an index that is not
reliable makes it fail, possibly between the deletion and the insertion. -/
theorem compile_ends {compiled : List TriggerRow}
    (hrows : rows catalog organization version graph = .ok compiled) (index : TriggerIndex) :
    Ends (compile catalog organization version graph) index
      (fun result after =>
        result = ⟨(index.rows.filter (·.workflowVersion = version)).length, compiled.length⟩ ∧
        TriggerIndex.Agrees
          { index with rows := index.rows.filter (·.workflowVersion ≠ version) ++ compiled } after)
      fun error after => (∃ reason, error = .store reason) ∧ ¬ index.outages.Reliable ∧
        (index.Agrees after ∨ TriggerIndex.Agrees
          { index with rows := index.rows.filter (·.workflowVersion ≠ version) } after) := by
  simp only [compile, hrows]
  apply (TriggerIndex.delete_ends index version).bind_mono
  · rintro deleted kept ⟨rfl, hkept⟩
    apply (TriggerIndex.insert_ends kept compiled).bind_mono
    · rintro inserted after ⟨rfl, hafter⟩
      refine .pure ⟨rfl, hafter.rows_eq.trans ?_, hafter.plan_eq.trans hkept.plan_eq⟩
      show kept.rows ++ compiled = _
      rw [hkept.rows_eq]
    · intro error after hrefuses
      have hunreliable : ¬ index.outages.Reliable := fun hreliable =>
        hrefuses.unreliable (hreliable.of_plan_eq hkept.plan_eq)
      exact ⟨hrefuses.store, hunreliable, .inr (hkept.trans hrefuses.agrees)⟩
  · intro error after hrefuses
    exact ⟨hrefuses.store, hrefuses.unreliable, .inl hrefuses.agrees⟩

theorem StandFor.workflowVersion_eq {sources : List TriggerSource} {rows : List TriggerRow}
    (h : StandFor organization version sources rows) : ∀ row ∈ rows, row.workflowVersion = version := by
  intro row hrow
  obtain ⟨source, -, rfl⟩ := h.of_source row hrow
  rfl

/-- The new rows are those of the version, and the rows that are kept are all others. -/
theorem filter_replaced (rows : List TriggerRow) {compiled : List TriggerRow}
    (h : ∀ row ∈ compiled, row.workflowVersion = version) :
    (rows.filter (·.workflowVersion ≠ version) ++ compiled).filter (·.workflowVersion = version) =
        compiled ∧
      (rows.filter (·.workflowVersion ≠ version) ++ compiled).filter (·.workflowVersion ≠ version) =
        rows.filter (·.workflowVersion ≠ version) := by
  have hall : compiled.filter (·.workflowVersion = version) = compiled :=
    List.filter_eq_self.mpr fun row hrow => decide_eq_true (h row hrow)
  have hnone : compiled.filter (·.workflowVersion ≠ version) = [] := by
    rw [List.filter_eq_nil_iff]
    intro row hrow
    simp [h row hrow]
  rw [List.filter_append, List.filter_append, hall, hnone, List.filter_filter, List.filter_filter]
  simp

/-- A compilation has replaced the rows of a version by those of a graph: it has counted both, and the rows of
all other versions are what and where they were. -/
structure Replaced (catalog : Catalog) (organization : Key .organization)
    (version : Key .workflowVersion) (graph : Graph) (before : TriggerIndex) (result : CompileResult)
    (after : TriggerIndex) : Prop where
  rows : StandFor organization version (sourcesOf catalog organization graph)
    (after.rows.filter (·.workflowVersion = version))
  others_eq : after.rows.filter (·.workflowVersion ≠ version) =
    before.rows.filter (·.workflowVersion ≠ version)
  deleted_eq : result.deleted = (before.rows.filter (·.workflowVersion = version)).length
  inserted_eq : result.inserted = (after.rows.filter (·.workflowVersion = version)).length

/-- **Compiling replaces the rows of one version, and doing it again changes nothing.** If it succeeds, the
version has one row for each device and topic of the sources that the graph waits for and the catalog resolves,
and no other version is touched. Compiling the graph again then leaves the same rows and deletes as many as it
inserts. If the catalog does not answer for one of the triggers, the index is as it was. For any other reason
compiling fails only if the index does. -/
theorem compile_replaces (catalog : Catalog) (organization : Key .organization)
    (version : Key .workflowVersion) (graph : Graph) (index : TriggerIndex) :
    Ends (compile catalog organization version graph) index
      (fun result after =>
        Replaced catalog organization version graph index result after ∧
          Ends (compile catalog organization version graph) after
            (fun again final => after.Agrees final ∧ again = ⟨result.inserted, result.inserted⟩)
            fun error _ => (∃ reason, error = .store reason) ∧ ¬ index.outages.Reliable)
      fun error after =>
        match error with
        | .catalog cause => after = index ∧
            ∃ node ∈ graph.telemetryTriggers, Unanswered catalog organization node cause
        | .store _ => ¬ index.outages.Reliable := by
  have hcases := rows_cases catalog organization version graph
  cases hrows : rows catalog organization version graph with
  | error cause =>
    rw [hrows] at hcases
    simp only [compile, hrows]
    exact .throw ⟨rfl, hcases⟩
  | ok compiled =>
    rw [hrows] at hcases
    have hstand : StandFor organization version (sourcesOf catalog organization graph) compiled := by
      rw [hcases]
      exact standFor_foldl_addRow ..
    apply (compile_ends hrows index).mono
    · rintro result after ⟨rfl, hafter⟩
      have hrows' : after.rows = index.rows.filter (·.workflowVersion ≠ version) ++ compiled :=
        hafter.rows_eq
      obtain ⟨hversion, hothers⟩ := filter_replaced index.rows hstand.workflowVersion_eq
      rw [← hrows'] at hversion hothers
      refine ⟨⟨hversion.symm ▸ hstand, hothers, rfl, by rw [hversion]⟩, ?_⟩
      -- the second time the rows that are kept and the new ones are the same as the first time
      apply (compile_ends hrows after).mono
      · rintro again final ⟨rfl, hfinal⟩
        rw [hothers, ← hrows'] at hfinal
        rw [hversion]
        exact ⟨hfinal, rfl⟩
      · rintro error final ⟨hstore, hunreliable, -⟩
        exact ⟨hstore, fun hreliable => hunreliable (hreliable.of_plan_eq hafter.plan_eq)⟩
    · rintro error after ⟨⟨reason, rfl⟩, hunreliable, -⟩
      exact hunreliable

end TelemetryAutomation.Trigger
