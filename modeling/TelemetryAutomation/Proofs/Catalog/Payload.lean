import TelemetryAutomation.Catalog.Payload
import TelemetryAutomation.Proofs.SortedMap
import TelemetryAutomation.Proofs.Success

/-!
# What is wrong with a payload

A payload is held against the active parameters of a topic. Several parameters may have one key, and then
the key is faulty as soon as the payload breaks the rules of one of them, whatever the others say.

* `Parameter.Takes`: the value of a parameter, said apart from the function that finds it
* `Inventory.IsFaulty`, `Inventory.Admits`: what is wrong with a payload, and that nothing is
* `Inventory.mem_keys_violations`: an inventory that answers reports the faulty keys and no others
-/

namespace TelemetryAutomation

/-! ## The value of a parameter -/

namespace Parameter

variable {parameter : Parameter} {payload : Object} {value : Option Json}

/-- The value that a parameter takes: what the payload has under its key, a `null` included, and the
default where the payload has nothing there. -/
inductive Takes (parameter : Parameter) (payload : Object) : Option Json → Prop
  | given {value : Json} (h : payload.get? parameter.key = some value) :
      Takes parameter payload (some value)
  | default (h : payload.get? parameter.key = none) : Takes parameter payload parameter.defaultValue

theorem takes_iff : parameter.Takes payload value ↔ value = parameter.valueIn payload := by
  rw [valueIn]
  constructor
  · intro h
    cases h with
    | given h => rw [h, Option.some_or]
    | default h => rw [h, Option.none_or]
  · rintro rfl
    cases h : payload.get? parameter.key with
    | none => exact .default h
    | some value => exact .given h

theorem check_of_takes (h : parameter.Takes payload value) :
    parameter.check value ≠ .ok () ↔ ∃ violation, parameter.violation? payload = some violation := by
  rw [takes_iff.mp h, violation?]
  cases parameter.check (parameter.valueIn payload) with
  | ok => simp
  | error violation => simp

/-- A parameter is violated if the value that it takes does not pass its check. -/
theorem exists_violation?_iff :
    (∃ violation, parameter.violation? payload = some violation) ↔
      ∃ value, parameter.Takes payload value ∧ parameter.check value ≠ .ok () := by
  constructor
  · intro h
    exact ⟨_, takes_iff.mpr rfl, (check_of_takes (takes_iff.mpr rfl)).mpr h⟩
  · rintro ⟨value, htakes, hcheck⟩
    exact (check_of_takes htakes).mp hcheck

end Parameter

/-! ## Faulty keys -/

namespace Inventory

variable {inventory : Inventory} {topic : Key .topic} {payload : Object}

/-- An active parameter of a topic. -/
structure Carries (inventory : Inventory) (topic : Key .topic) (parameter : Parameter) : Prop where
  listed : ∃ id, inventory.parameters.get? id = some parameter
  topic_eq : parameter.topic = topic
  isActive : parameter.isActive

/-- A key is faulty if an active parameter with this key takes a value that does not pass. -/
def IsFaulty (inventory : Inventory) (topic : Key .topic) (payload : Object) (key : String) : Prop :=
  ∃ parameter, inventory.Carries topic parameter ∧ parameter.key = key ∧
    ∃ value, parameter.Takes payload value ∧ parameter.check value ≠ .ok ()

/-- The payload gives every active parameter of the topic a value that passes. -/
def Admits (inventory : Inventory) (topic : Key .topic) (payload : Object) : Prop :=
  ∀ parameter, inventory.Carries topic parameter →
    ∀ value, parameter.Takes payload value → parameter.check value = .ok ()

theorem admits_iff : inventory.Admits topic payload ↔ ∀ key, ¬ inventory.IsFaulty topic payload key := by
  constructor
  · rintro h key ⟨parameter, hcarries, -, value, htakes, hcheck⟩
    exact hcheck (h parameter hcarries value htakes)
  · intro h parameter hcarries value htakes
    by_contra hcheck
    exact h parameter.key ⟨parameter, hcarries, rfl, value, htakes, hcheck⟩

theorem answer_eq_ok {α : Type} {value : α} (h : inventory.unavailable = none) :
    inventory.answer value = .ok value := by
  rw [answer, h]

theorem mem_topicParameters_iff {parameter : Parameter} :
    parameter ∈ (inventory.parameters.toList.filter (·.topic = topic)).filter (·.isActive) ↔
      inventory.Carries topic parameter := by
  rw [List.mem_filter, List.mem_filter, SortedMap.mem_toList_iff, decide_eq_true_eq]
  exact ⟨fun ⟨⟨hlisted, htopic⟩, hactive⟩ => ⟨hlisted, htopic, hactive⟩,
    fun ⟨hlisted, htopic, hactive⟩ => ⟨⟨hlisted, htopic⟩, hactive⟩⟩

/-- An available inventory checks every payload, and the keys that it reports are the faulty ones. -/
theorem mem_keys_violations (h : inventory.unavailable = none) (topic : Topic) (payload : Object) :
    ∃ violations, inventory.catalog.violations topic payload = .ok violations ∧
      ∀ key, key ∈ violations.keys ↔ inventory.IsFaulty topic.id payload key := by
  refine ⟨_, Success.bind_eq_ok.mpr ⟨_, answer_eq_ok h, rfl⟩, ?_⟩
  intro key
  rw [SortedMap.mem_keys_ofList, List.map_filterMap, List.mem_filterMap]
  apply exists_congr
  intro parameter
  rw [mem_topicParameters_iff, ← Parameter.exists_violation?_iff]
  apply and_congr_right
  intro _
  cases parameter.violation? payload with
  | none => simp
  | some violation => simp

end Inventory

end TelemetryAutomation
