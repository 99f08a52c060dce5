import Mathlib.Data.Option.Basic
import TelemetryAutomation.Proofs.SortedMap
import TelemetryAutomation.Proofs.Store.Failing
import TelemetryAutomation.Proofs.Trigger.Sources
import TelemetryAutomation.Trigger.Compile
import TelemetryAutomation.Trigger.Match

/-!
# Rows and the triggers behind them

A record can be compared with the triggers of a graph, or with the rows that the triggers were compiled
into. For an accepted graph both agree: some row covers the record exactly if some trigger hears it.
-/

namespace TelemetryAutomation

variable {σ : Type}

namespace Trigger

variable {catalog : Catalog} {query : Option (QueryService σ)} {organization : Key .organization}
  {version : Key .workflowVersion} {node : Node} {settings : TriggerSettings} {device : Key .device}
  {topic : Key .topic} {parameter : Key .parameter} {source : TriggerSource}
  {record : TelemetryRecord}

theorem eventSource?_eq_some :
    eventSource? node = some (device, topic, parameter) ↔
      ∃ settings, node.triggerSettings? = some settings ∧ settings.mode = some "event" ∧
        settings.source? = some (device, topic, parameter) := by
  simp only [eventSource?, Option.bind_eq_bind, Option.bind_eq_some_iff, Option.guard_eq_some',
    Unique.exists_iff]

namespace Resolves

theorem row?_eq (h : Resolves catalog organization node settings device topic parameter source) :
    row? catalog organization version node = .ok (some (rowOf organization version source)) := by
  have hevent := eventSource?_eq_some.mpr ⟨settings, h.settings_eq, h.mode_eq, h.source_eq⟩
  simp only [row?, hevent, h.resolved]

/-- Its row covers exactly the records of its device and topic. -/
theorem covers_iff (h : Resolves catalog organization node settings device topic parameter source)
    (hcatalog : catalog.Faithful) {from? : Device}
    (hfrom : catalog.device record.device = .ok (some from?)) :
    (rowOf organization version source).covers (scopeOf from? record) ↔
      device = record.device ∧ topic = record.topic := by
  have hdevice := h.device_eq hcatalog
  have htopic := h.topic_eq hcatalog
  have hid := hcatalog.device_id hfrom
  obtain ⟨hfound, horganization, -⟩ := Catalog.resolveTriggerSource_eq_ok.mp h.resolved
  simp only [TriggerRow.covers, rowOf, scopeOf, admits, Option.all_some, Bool.and_eq_true,
    decide_eq_true_eq, hdevice, htopic, hid]
  constructor
  · rintro ⟨⟨⟨-, hdevice⟩, -⟩, htopic⟩
    exact ⟨hdevice, htopic⟩
  · rintro ⟨rfl, rfl⟩
    -- both lookups found one device
    rw [hfrom, Except.ok.injEq, Option.some.injEq] at hfound
    rw [hfound]
    exact ⟨⟨⟨horganization.symm, rfl⟩, rfl⟩, rfl⟩

end Resolves

/-! ## Rows of a graph -/

theorem mem_addRow {rows : List TriggerRow} {row other : TriggerRow} (h : row ∈ addRow rows other) :
    row ∈ rows ∨ row = other := by
  unfold addRow at h
  split at h
  · exact .inl h
  · simpa using h

theorem mem_of_mem_foldl_addRow {rows found : List TriggerRow} {row : TriggerRow}
    (h : row ∈ found.foldl addRow rows) : row ∈ rows ∨ row ∈ found := by
  induction found generalizing rows with
  | nil => exact .inl h
  | cons first rest ih =>
    rcases ih h with hrows | hrest
    · rcases mem_addRow hrows with hrows | rfl
      · exact .inl hrows
      · exact .inr List.mem_cons_self
    · exact .inr (List.mem_cons_of_mem _ hrest)

/-- Whether a row is there for the device and topic of another. -/
def HasRowLike (rows : List TriggerRow) (row : TriggerRow) : Prop :=
  ∃ other ∈ rows, other.device = row.device ∧ other.topic = row.topic

theorem HasRowLike.addRow {rows : List TriggerRow} {row other : TriggerRow}
    (h : HasRowLike rows row) : HasRowLike (addRow rows other) row := by
  unfold Trigger.addRow
  split
  · exact h
  · obtain ⟨kept, hkept, hlike⟩ := h
    exact ⟨kept, List.mem_append_left _ hkept, hlike⟩

theorem hasRowLike_addRow_self (rows : List TriggerRow) (row : TriggerRow) :
    HasRowLike (addRow rows row) row := by
  unfold addRow
  split
  · next hany =>
    obtain ⟨other, hother, hlike⟩ := List.any_eq_true.mp hany
    exact ⟨other, hother, by simpa using hlike⟩
  · exact ⟨row, by simp, rfl, rfl⟩

theorem hasRowLike_foldl_addRow {rows found : List TriggerRow} {row : TriggerRow}
    (h : HasRowLike rows row ∨ row ∈ found) : HasRowLike (found.foldl addRow rows) row := by
  induction found generalizing rows with
  | nil => simpa using h
  | cons first rest ih =>
    apply ih
    rcases h with hrows | hfound
    · exact .inl hrows.addRow
    · rcases List.mem_cons.mp hfound with rfl | hrest
      · exact .inl (hasRowLike_addRow_self rows row)
      · exact .inr hrest

/-- The device and the topic of a row. -/
def sourceOf (row : TriggerRow) : Option (Key .device) × Option (Key .topic) :=
  (row.device, row.topic)

theorem addRow_of_mem {rows : List TriggerRow} {row : TriggerRow}
    (h : sourceOf row ∈ rows.map sourceOf) : addRow rows row = rows := by
  obtain ⟨other, hother, hsame⟩ := List.mem_map.mp h
  obtain ⟨hdevice, htopic⟩ := Prod.mk.inj hsame
  exact if_pos (List.any_eq_true.mpr ⟨other, hother, by simp [hdevice, htopic]⟩)

theorem addRow_of_not_mem {rows : List TriggerRow} {row : TriggerRow}
    (h : sourceOf row ∉ rows.map sourceOf) : addRow rows row = rows ++ [row] := by
  refine if_neg fun hany => h ?_
  obtain ⟨other, hother, hsame⟩ := List.any_eq_true.mp hany
  have hplace : sourceOf other = sourceOf row := by simpa [sourceOf] using hsame
  exact List.mem_map.mpr ⟨other, hother, hplace⟩

theorem nodup_addRow {rows : List TriggerRow} (h : (rows.map sourceOf).Nodup) (row : TriggerRow) :
    ((addRow rows row).map sourceOf).Nodup := by
  by_cases hrow : sourceOf row ∈ rows.map sourceOf
  · rw [addRow_of_mem hrow]
    exact h
  · rw [addRow_of_not_mem hrow, List.map_append, List.map_singleton, ← List.concat_eq_append]
    exact h.concat hrow

theorem nodup_foldl_addRow {rows : List TriggerRow} (h : (rows.map sourceOf).Nodup)
    (found : List TriggerRow) : ((found.foldl addRow rows).map sourceOf).Nodup := by
  induction found generalizing rows with
  | nil => exact h
  | cons first rest ih => exact ih (nodup_addRow h first)

variable {workflow : Workflow} {graph : Graph} {rows : List TriggerRow}

/-- The rows of a graph, one for each device and topic that its triggers listen to. -/
structure Compiled (catalog : Catalog) (organization : Key .organization)
    (version : Key .workflowVersion) (graph : Graph) (rows : List TriggerRow) : Prop where
  rows_eq : Trigger.rows catalog organization version graph = .ok rows
  nodup : (rows.map sourceOf).Nodup
  of_trigger : ∀ row ∈ rows, ∃ node ∈ graph.telemetryTriggers,
    row? catalog organization version node = .ok (some row)
  complete : ∀ node ∈ graph.telemetryTriggers, ∀ row,
    row? catalog organization version node = .ok (some row) → HasRowLike rows row

/-- Compiling leaves out no source and repeats none. -/
theorem compiled_of_rows (hrows : Trigger.rows catalog organization version graph = .ok rows) :
    Compiled catalog organization version graph rows := by
  have hcompiled := hrows
  rw [Trigger.rows, Success.bind_eq_ok] at hrows
  obtain ⟨found, hfound, ⟨⟩⟩ := hrows
  have hnil : (([] : List TriggerRow).map sourceOf).Nodup := .nil
  refine ⟨hcompiled, nodup_foldl_addRow hnil _, ?_, ?_⟩
  · intro row hrow
    have hmem : row ∈ found.filterMap id := by simpa using mem_of_mem_foldl_addRow hrow
    obtain ⟨_, hmem, rfl⟩ := List.mem_filterMap.mp hmem
    exact (Success.mem_of_mapM_eq_ok hfound).mp hmem
  · intro node hnode row hrow
    have hmem : some row ∈ found := (Success.mem_of_mapM_eq_ok hfound).mpr ⟨node, hnode, hrow⟩
    exact hasRowLike_foldl_addRow (.inr (List.mem_filterMap.mpr ⟨some row, hmem, rfl⟩))

/-- The triggers of an accepted graph can be compiled. -/
theorem exists_rows (h : graph.checkNodes catalog query workflow = .ok ())
    (version : Key .workflowVersion) :
    ∃ rows, Trigger.rows catalog workflow.organization version graph = .ok rows := by
  have hfound : ∃ found,
      graph.telemetryTriggers.mapM (row? catalog workflow.organization version) = .ok found := by
    apply Success.exists_mapM_eq_ok
    intro node hnode
    obtain ⟨-, -, _, _, _, _, _, hresolves⟩ := resolves_of_checkNodes h hnode
    exact ⟨_, hresolves.row?_eq⟩
  obtain ⟨found, hfound⟩ := hfound
  refine ⟨(found.filterMap id).foldl addRow [], ?_⟩
  rw [Trigger.rows, hfound]
  rfl

/-- Every row belongs to a trigger of the graph. -/
theorem resolves_of_mem_rows (h : graph.checkNodes catalog query workflow = .ok ())
    (hrows : Trigger.rows catalog workflow.organization version graph = .ok rows) {row : TriggerRow}
    (hrow : row ∈ rows) :
    ∃ node ∈ graph.telemetryTriggers, ∃ settings device topic parameter source,
      Resolves catalog workflow.organization node settings device topic parameter source ∧
        row = rowOf workflow.organization version source := by
  obtain ⟨node, hnode, hrow⟩ := (compiled_of_rows hrows).of_trigger row hrow
  obtain ⟨-, -, settings, device, topic, parameter, source, hresolves⟩ :=
    resolves_of_checkNodes h hnode
  refine ⟨node, hnode, settings, device, topic, parameter, source, hresolves, ?_⟩
  rw [hresolves.row?_eq] at hrow
  simpa using hrow.symm

/-- For every trigger of the graph there is a row of its device and topic. -/
theorem hasRowLike_rows (hrows : Trigger.rows catalog organization version graph = .ok rows)
    (hnode : node ∈ graph.telemetryTriggers)
    (h : Resolves catalog organization node settings device topic parameter source) :
    HasRowLike rows (rowOf organization version source) :=
  (compiled_of_rows hrows).complete node hnode _ h.row?_eq

/-- **The rows of a graph stand for its triggers**: one of them covers a record if and only if some
trigger of the graph hears it. -/
theorem exists_covers_iff (hcatalog : catalog.Faithful)
    (h : graph.checkNodes catalog query workflow = .ok ())
    (hrows : Trigger.rows catalog workflow.organization version graph = .ok rows) {from? : Device}
    (hfrom : catalog.device record.device = .ok (some from?)) :
    (∃ row ∈ rows, row.covers (scopeOf from? record)) ↔ ∃ node ∈ graph.nodes, node.hears record := by
  constructor
  · rintro ⟨row, hrow, hcovers⟩
    obtain ⟨node, hnode, _, _, _, _, _, hresolves, rfl⟩ := resolves_of_mem_rows h hrows hrow
    obtain ⟨hmem, hkind, -⟩ := resolves_of_checkNodes h hnode
    exact ⟨node, hmem, (hresolves.hears_iff hkind).mpr ((hresolves.covers_iff hcatalog hfrom).mp hcovers)⟩
  · rintro ⟨node, hmem, hhears⟩
    have hnode := mem_telemetryTriggers_of_hears hmem hhears
    obtain ⟨-, hkind, _, _, _, _, source, hresolves⟩ := resolves_of_checkNodes h hnode
    obtain ⟨rfl, rfl⟩ := (hresolves.hears_iff hkind).mp hhears
    -- the row may have been made for another trigger of the same device and topic
    obtain ⟨row, hrow, hdevice, htopic⟩ := hasRowLike_rows hrows hnode hresolves
    obtain ⟨other, hother, _, _, _, _, source', hresolves', rfl⟩ := resolves_of_mem_rows h hrows hrow
    refine ⟨_, hrow, (hresolves'.covers_iff hcatalog hfrom).mpr ⟨?_, ?_⟩⟩
    · rw [← hresolves'.device_eq hcatalog, ← hresolves.device_eq hcatalog]
      exact Option.some.inj hdevice
    · rw [← hresolves'.topic_eq hcatalog, ← hresolves.topic_eq hcatalog]
      exact Option.some.inj htopic

/-! ## Matching -/

theorem mem_ascending {versions : List (Key .workflowVersion)} {version : Key .workflowVersion} :
    version ∈ ascending versions ↔ version ∈ versions := by
  rw [ascending, SortedMap.mem_keys_ofList, List.map_map]
  simp

/-- A record sets a version off: its device is known, and the version has a row that covers the record and
whose filter passes. -/
def SetsOff (catalog : Catalog) (evaluate : (expression data : Json) → Json) (index : TriggerIndex)
    (record : TelemetryRecord) (version : Key .workflowVersion) : Prop :=
  ∃ device, catalog.device record.device = .ok (some device) ∧
    ∃ row ∈ index.rows, row.covers (scopeOf device record) ∧
      row.passes evaluate record.values ∧ row.workflowVersion = version

/-- Matching gives the versions that the record sets off, in ascending order. It fails only if the device
cannot be looked up or the index fails. -/
theorem matching_ends (catalog : Catalog) (evaluate : (expression data : Json) → Json)
    (record : TelemetryRecord) (index : TriggerIndex) :
    Ends (matching catalog evaluate record) index
      (fun versions after => index.Agrees after ∧ versions.Pairwise (compare · · = .lt) ∧
        ∀ version, version ∈ versions ↔ SetsOff catalog evaluate index record version)
      fun _ after => index.Agrees after ∧
        (index.outages.Reliable → ∀ found, catalog.device record.device ≠ .ok found) := by
  unfold matching SetsOff
  cases hdevice : catalog.device record.device with
  | error error => exact .throw ⟨.refl index, nofun⟩
  | ok found =>
    cases found with
    | none => exact .pure ⟨.refl index, .nil, by simp⟩
    | some device =>
      apply (TriggerIndex.candidates_ends index (scopeOf device record)).bind_mono
      · rintro _ after ⟨hafter, rfl⟩
        refine .pure ⟨hafter, SortedMap.sorted _, ?_⟩
        intro version
        simp only [mem_ascending, List.mem_map, List.mem_filter, Except.ok.injEq, Option.some.injEq,
          exists_eq_left', and_assoc]
      · intro _ after hrefuses
        exact ⟨hrefuses.agrees, fun hreliable => absurd hreliable hrefuses.unreliable⟩

/-- An index that does not fail answers whenever the catalog does. -/
theorem run_matching_of_device {index : TriggerIndex} (hindex : index.outages.Reliable)
    (evaluate : (expression data : Json) → Json) {found : Option Device}
    (hfound : catalog.device record.device = .ok found) :
    ∃ versions after, matching catalog evaluate record index = (.ok versions, after) ∧
      versions.Pairwise (compare · · = .lt) ∧
      ∀ version, version ∈ versions ↔ SetsOff catalog evaluate index record version := by
  have hends := matching_ends catalog evaluate record index
  have hsucceeds := hends.succeeds fun _ _ hfailed => hfailed.2 hindex found hfound
  obtain ⟨versions, after, hmatching, -, hascending, hversions⟩ := hsucceeds
  exact ⟨versions, after, hmatching, hascending, hversions⟩

/-- On an index whose rows have no filters, matching gives the versions of the rows that cover the
record, in ascending order. A record of an unknown device matches nothing. -/
theorem run_matching {index : TriggerIndex} (evaluate : (expression data : Json) → Json)
    (hindex : index.outages.Reliable) (hfilter : ∀ row ∈ index.rows, row.filter = none)
    (hcatalog : catalog.Faithful) (record : TelemetryRecord) :
    ∃ versions after, matching catalog evaluate record index = (.ok versions, after) ∧
      versions.Pairwise (compare · · = .lt) ∧
      ∀ version, version ∈ versions ↔
        ∃ device, catalog.device record.device = .ok (some device) ∧
          ∃ row ∈ index.rows, row.covers (scopeOf device record) ∧ row.workflowVersion = version := by
  obtain ⟨found, hfound⟩ := hcatalog.answers record.device
  have hpasses : ∀ row ∈ index.rows, row.passes evaluate record.values := by
    intro row hrow
    simp [TriggerRow.passes, TriggerRow.filter?, hfilter row hrow]
  obtain ⟨versions, after, hmatching, hascending, hversions⟩ :=
    run_matching_of_device hindex evaluate hfound
  refine ⟨versions, after, hmatching, hascending, ?_⟩
  intro version
  rw [hversions]
  constructor
  · rintro ⟨device, hdevice, row, hrow, hcovers, -, hversion⟩
    exact ⟨device, hdevice, row, hrow, hcovers, hversion⟩
  · rintro ⟨device, hdevice, row, hrow, hcovers, hversion⟩
    exact ⟨device, hdevice, row, hrow, hcovers, hpasses row hrow, hversion⟩

end Trigger

end TelemetryAutomation
