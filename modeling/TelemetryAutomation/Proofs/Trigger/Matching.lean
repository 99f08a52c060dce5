import TelemetryAutomation.Proofs.Trigger.Rows

/-!
# What a match depends on

A record sets off the versions that have a row for it. Here it is spelled out what such a row is, without the
scope of a record and the lookup of candidates. Only whether there is such a row matters. So neither the order
of the rows nor how often one of them is there has a part in the result.

Main result: `matching_exact`.
-/

namespace TelemetryAutomation

/-! ## Rows that wait for a record -/

/-- A row waits for a record of a device: it is one of the device's organization, and each of the keys by which
it may be narrowed down is missing or is that of the record. -/
structure TriggerRow.WaitsFor (row : TriggerRow) (device : Device) (record : TelemetryRecord) : Prop where
  organization_eq : row.organization = device.organization
  device_eq : row.device = none ∨ row.device = some record.device
  deviceType_eq : row.deviceType = none ∨ row.deviceType = some device.deviceType
  topic_eq : row.topic = none ∨ row.topic = some record.topic

/-- An expression of a filter: an object or an array with something in it. -/
inductive Json.IsExpression : Json → Prop
  | object {fields : Object} (h : fields.isEmpty = false) : IsExpression (.obj fields)
  | array {items : List Json} (h : items ≠ []) : IsExpression (.arr items)

/-- A row lets the values of a record pass: it has no filter, or its filter is no expression or holds. -/
inductive TriggerRow.LetsPass (evaluate : (expression data : Json) → Json) (values : Object)
    (row : TriggerRow) : Prop
  | unfiltered (h : row.filter = none)
  | noExpression {filter : Json} (hfilter : row.filter = some filter) (h : ¬ filter.IsExpression)
  | holds {filter : Json} (hfilter : row.filter = some filter)
      (h : (evaluate filter (.obj values)).holds)

theorem admits_iff {entity : Entity} {wanted : Option (Key entity)} {key : Key entity} :
    admits wanted key ↔ wanted = none ∨ wanted = some key := by
  cases wanted <;> simp [admits]

namespace TriggerRow

theorem covers_scopeOf_iff {row : TriggerRow} {device : Device} {record : TelemetryRecord}
    (hid : device.id = record.device) :
    row.covers (Trigger.scopeOf device record) ↔ row.WaitsFor device record := by
  simp only [covers, Trigger.scopeOf, Bool.and_eq_true, decide_eq_true_eq, admits_iff, hid]
  constructor
  · rintro ⟨⟨⟨horganization, hdevice⟩, htype⟩, htopic⟩
    exact ⟨horganization, hdevice, htype, htopic⟩
  · rintro ⟨horganization, hdevice, htype, htopic⟩
    exact ⟨⟨⟨horganization, hdevice⟩, htype⟩, htopic⟩

/-- What counts as the filter of a row is an expression. -/
theorem filter?_eq_some {row : TriggerRow} {filter : Json} :
    row.filter? = some filter ↔ row.filter = some filter ∧ filter.IsExpression := by
  rw [filter?, Option.filter_eq_some_iff]
  refine and_congr_right fun _ => ?_
  cases filter with
  | obj fields =>
    constructor
    · intro hfields
      exact .object (by simpa using hfields)
    · rintro ⟨hfields⟩
      simpa using hfields
  | arr items =>
    constructor
    · intro hitems
      exact .array (by simpa using hitems)
    · rintro (_ | hitems)
      simpa using hitems
  | _ =>
    refine iff_of_false Bool.false_ne_true ?_
    rintro ⟨⟩

theorem passes_iff {evaluate : (expression data : Json) → Json} {values : Object} {row : TriggerRow} :
    row.passes evaluate values ↔ row.LetsPass evaluate values := by
  rw [passes, Option.all_eq_true]
  constructor
  · intro hall
    cases hfilter : row.filter with
    | none => exact .unfiltered hfilter
    | some filter =>
      by_cases hexpression : filter.IsExpression
      · exact .holds hfilter (hall filter (filter?_eq_some.mpr ⟨hfilter, hexpression⟩))
      · exact .noExpression hfilter hexpression
  · intro hpass filter hfilter
    obtain ⟨hfilter, hexpression⟩ := filter?_eq_some.mp hfilter
    cases hpass with
    | unfiltered hnone =>
      rw [hnone] at hfilter
      contradiction
    | noExpression hother hblank =>
      obtain rfl := Option.some.inj (hother.symm.trans hfilter)
      exact absurd hexpression hblank
    | holds hother hholds =>
      obtain rfl := Option.some.inj (hother.symm.trans hfilter)
      exact hholds

end TriggerRow

namespace Trigger

/-! ## Matching -/

theorem value_lt_of_compare {entity : Entity} {key other : Key entity}
    (h : compare key other = .lt) : key.value < other.value := by
  have hvalues : compare key.value other.value = .lt := h
  exact Std.compare_eq_lt.mp hvalues

/-- A device that is known sets off the versions that have a row that waits for the record and lets its values
pass. -/
theorem setsOff_iff {catalog : Catalog} {evaluate : (expression data : Json) → Json}
    {index : TriggerIndex} {record : TelemetryRecord} {version : Key .workflowVersion} {device : Device}
    (hdevice : catalog.device record.device = .ok (some device)) (hid : device.id = record.device) :
    SetsOff catalog evaluate index record version ↔
      ∃ row ∈ index.rows, row.workflowVersion = version ∧ row.WaitsFor device record ∧
        row.LetsPass evaluate record.values := by
  unfold SetsOff
  constructor
  · rintro ⟨found, hfound, row, hrow, hcovers, hpasses, hversion⟩
    rw [hdevice, Except.ok.injEq, Option.some.injEq] at hfound
    subst hfound
    have hwaits := (TriggerRow.covers_scopeOf_iff hid).mp hcovers
    exact ⟨row, hrow, hversion, hwaits, TriggerRow.passes_iff.mp hpasses⟩
  · rintro ⟨row, hrow, hversion, hwaits, hpass⟩
    have hcovers := (TriggerRow.covers_scopeOf_iff hid).mpr hwaits
    exact ⟨device, hdevice, row, hrow, hcovers, TriggerRow.passes_iff.mpr hpass, hversion⟩

/-- **Matching finds exactly the versions that wait for a record.** With an inventory as its catalog and an index
that does not fail, a record of a known device gives the versions that have a row that waits for it and lets its
values pass, in strictly ascending order. The result is the same on every index with the same rows, in whatever
order and however often they are there. A record of an unknown device gives no version, and without an answer of
the inventory there is no result. -/
theorem matching_exact {inventory : Inventory} {index : TriggerIndex} (hmade : inventory.Made)
    (hindex : index.outages.Reliable) (evaluate : (expression data : Json) → Json)
    (record : TelemetryRecord) :
    match inventory.catalog.device record.device with
    | .error error => (matching inventory.catalog evaluate record index).1 = .error (.catalog error)
    | .ok none => (matching inventory.catalog evaluate record index).1 = .ok []
    | .ok (some device) => ∃ versions,
      (matching inventory.catalog evaluate record index).1 = .ok versions ∧
        versions.Pairwise (·.value < ·.value) ∧
        (∀ version, version ∈ versions ↔
          ∃ row ∈ index.rows, row.workflowVersion = version ∧ row.WaitsFor device record ∧
            row.LetsPass evaluate record.values) ∧
        ∀ other : TriggerIndex, other.outages.Reliable → (∀ row, row ∈ other.rows ↔ row ∈ index.rows) →
          (matching inventory.catalog evaluate record other).1 = .ok versions := by
  cases hfound : inventory.catalog.device record.device with
  | error error =>
    simp only [matching, hfound]
    rfl
  | ok found =>
    cases found with
    | none =>
      simp only [matching, hfound]
      rfl
    | some device =>
      have hid := hmade.id_eq_of_device hfound
      obtain ⟨versions, after, hmatching, hascending, hversions⟩ :=
        run_matching_of_device hindex evaluate hfound
      have hexact (version : Key .workflowVersion) :=
        (hversions version).trans (setsOff_iff hfound hid)
      refine ⟨versions, congrArg Prod.fst hmatching, hascending.imp value_lt_of_compare, hexact, ?_⟩
      intro other hother hrows
      obtain ⟨others, after', hothers, hascending', hversions'⟩ :=
        run_matching_of_device hother evaluate hfound
      -- the rows have the same members, so both results have the same members and ascend
      have hsame : others = versions := by
        apply SortedMap.eq_of_ascending id hascending' hascending
        intro version
        rw [hversions', hexact, setsOff_iff hfound hid]
        simp only [hrows]
      rw [hothers, hsame]

end Trigger

namespace Sample

/-- Rows for all meters, for the readings of the meter, and for another organization. -/
def waitingRows : List TriggerRow :=
  [⟨⟨1⟩, ⟨3⟩, none, none, none, some (.arr [])⟩,
    ⟨⟨1⟩, ⟨2⟩, some ⟨1⟩, some ⟨1⟩, some ⟨1⟩, none⟩,
    ⟨⟨1⟩, ⟨3⟩, none, some ⟨1⟩, none, some (.object [("var", .str "power")])⟩,
    ⟨⟨2⟩, ⟨1⟩, none, none, none, none⟩]

end Sample

namespace Trigger

/-- The third version has two rows and the second one, and the first version is of another organization. -/
theorem matching_exact_meter :
    let index : TriggerIndex := ⟨Sample.waitingRows, .none⟩
    let evaluate : (expression data : Json) → Json := fun _ data => (data.field? "power").getD .null
    Sample.inventory.Made ∧ index.outages.Reliable ∧
      Sample.inventory.catalog.device Sample.record.device = .ok (some Sample.meter) ∧
      ∃ versions,
        (matching Sample.inventory.catalog evaluate Sample.record index).1 = .ok versions ∧
        versions = [⟨2⟩, ⟨3⟩] ∧
        versions.Pairwise (·.value < ·.value) ∧
        (∀ version, version ∈ versions ↔
          ∃ row ∈ index.rows, row.workflowVersion = version ∧
            row.WaitsFor Sample.meter Sample.record ∧ row.LetsPass evaluate Sample.record.values) ∧
        ∀ other : TriggerIndex, other.outages.Reliable → (∀ row, row ∈ other.rows ↔ row ∈ index.rows) →
          (matching Sample.inventory.catalog evaluate Sample.record other).1 = .ok versions := by
  intro index evaluate
  have hmade : Sample.inventory.Made := Inventory.made_ofSnapshot _
  have hindex : index.outages.Reliable := Outages.reliable_none
  have hdevice : Sample.inventory.catalog.device Sample.record.device = .ok (some Sample.meter) := rfl
  have hmatching : (matching Sample.inventory.catalog evaluate Sample.record index).1 =
      .ok [⟨2⟩, ⟨3⟩] := rfl
  have h := matching_exact hmade hindex evaluate Sample.record
  rw [hdevice] at h
  obtain ⟨versions, hversions, hrest⟩ := h
  have hsame : versions = [⟨2⟩, ⟨3⟩] := Except.ok.inj (hversions.symm.trans hmatching)
  exact ⟨hmade, hindex, hdevice, versions, hversions, hsame, hrest⟩

end Trigger

end TelemetryAutomation
