import TelemetryAutomation.Catalog.Basic
import TelemetryAutomation.Proofs.SortedMap

/-!
# Faithful catalogs

What a catalog finds under a key has that key. Inventories are faithful because entries are registered
under their own keys, whatever the order and however often.
-/

namespace TelemetryAutomation

/-- A catalog that answers when it is asked for a device, and that finds devices and topics under their
own keys only. -/
structure Catalog.Faithful (catalog : Catalog) : Prop where
  answers : ∀ id, ∃ found, catalog.device id = .ok found
  device_id : ∀ {id device}, catalog.device id = .ok (some device) → device.id = id
  topic_id : ∀ {id topic}, catalog.topic id = .ok (some topic) → topic.id = id

/-- A catalog that finds devices and topics under their own keys only, whenever it answers. -/
structure Catalog.Keyed (catalog : Catalog) : Prop where
  device_id : ∀ {id device}, catalog.device id = .ok (some device) → device.id = id
  topic_id : ∀ {id topic}, catalog.topic id = .ok (some topic) → topic.id = id

theorem Catalog.Faithful.keyed {catalog : Catalog} (h : catalog.Faithful) : catalog.Keyed :=
  ⟨h.device_id, h.topic_id⟩

namespace Inventory

variable {inventory : Inventory}

/-- An inventory that is available and holds its entries under their own keys. -/
structure Orderly (inventory : Inventory) : Prop where
  unavailable_eq : inventory.unavailable = none
  device_id : ∀ id device, inventory.devices.get? id = some device → device.id = id
  topic_id : ∀ id topic, inventory.topics.get? id = some topic → topic.id = id

theorem orderly_empty : empty.Orderly := ⟨rfl, nofun, nofun⟩

theorem Orderly.insertDevice (h : inventory.Orderly) (device : Device) :
    (inventory.insertDevice device).Orderly := by
  refine ⟨h.unavailable_eq, ?_, h.topic_id⟩
  intro id found hfound
  exact SortedMap.forall_get?_insert h.device_id rfl hfound

theorem Orderly.insertTopic (h : inventory.Orderly) (topic : Topic) :
    (inventory.insertTopic topic).Orderly := by
  refine ⟨h.unavailable_eq, h.device_id, ?_⟩
  intro id found hfound
  exact SortedMap.forall_get?_insert h.topic_id rfl hfound

theorem Orderly.insertParameter (h : inventory.Orderly) (parameter : Parameter) :
    (inventory.insertParameter parameter).Orderly :=
  ⟨h.unavailable_eq, h.device_id, h.topic_id⟩

/-- What holds of an empty inventory and is kept by insertions holds of the inventory of a snapshot. -/
theorem ofSnapshot_induction {property : Inventory → Prop} (hempty : property empty)
    (hdevice : ∀ {before}, property before → ∀ device, property (before.insertDevice device))
    (htopic : ∀ {before}, property before → ∀ topic, property (before.insertTopic topic))
    (hparameter : ∀ {before}, property before → ∀ parameter,
      property (before.insertParameter parameter))
    (snapshot : CatalogSnapshot) : property (ofSnapshot snapshot) := by
  have hdevices : property (snapshot.devices.foldl Inventory.insertDevice empty) :=
    List.foldlRecOn _ _ hempty fun _ h device _ => hdevice h device
  have htopics : property (snapshot.topics.foldl Inventory.insertTopic
      (snapshot.devices.foldl Inventory.insertDevice empty)) :=
    List.foldlRecOn _ _ hdevices fun _ h topic _ => htopic h topic
  exact List.foldlRecOn _ _ htopics fun _ h parameter _ => hparameter h parameter

/-- Whatever a snapshot lists, its inventory is orderly. -/
theorem orderly_ofSnapshot (snapshot : CatalogSnapshot) : (ofSnapshot snapshot).Orderly :=
  ofSnapshot_induction orderly_empty Orderly.insertDevice Orderly.insertTopic Orderly.insertParameter
    snapshot

theorem Orderly.answer (h : inventory.Orderly) {α : Type} (value : α) :
    inventory.answer value = .ok value := by
  rw [Inventory.answer, h.unavailable_eq]

theorem Orderly.faithful (h : inventory.Orderly) : inventory.catalog.Faithful := by
  refine ⟨?_, ?_, ?_⟩
  · intro id
    exact ⟨inventory.devices.get? id, h.answer _⟩
  · intro id device hdevice
    have hfound : inventory.answer (inventory.devices.get? id) = .ok (some device) := hdevice
    rw [h.answer, Except.ok.injEq] at hfound
    exact h.device_id id device hfound
  · intro id topic htopic
    have hfound : inventory.answer (inventory.topics.get? id) = .ok (some topic) := htopic
    rw [h.answer, Except.ok.injEq] at hfound
    exact h.topic_id id topic hfound

/-! ## All inventories -/

/-- The inventories that can be made, from an empty one by any operations in any order. -/
inductive Made : Inventory → Prop
  | empty : Made Inventory.empty
  | insertDevice {before : Inventory} (h : Made before) (device : Device) :
      Made (before.insertDevice device)
  | insertTopic {before : Inventory} (h : Made before) (topic : Topic) :
      Made (before.insertTopic topic)
  | insertParameter {before : Inventory} (h : Made before) (parameter : Parameter) :
      Made (before.insertParameter parameter)
  | deactivateParameter {before : Inventory} (h : Made before) (id : Key .parameter) :
      Made (before.deactivateParameter id)
  | removeDevice {before : Inventory} (h : Made before) (id : Key .device) :
      Made (before.removeDevice id)
  | setUnavailable {before : Inventory} (h : Made before) (reason : String) :
      Made (before.setUnavailable reason)

theorem made_ofSnapshot (snapshot : CatalogSnapshot) : (ofSnapshot snapshot).Made :=
  ofSnapshot_induction .empty Made.insertDevice Made.insertTopic Made.insertParameter snapshot

/-- Whatever is done to an inventory, it holds its devices under their own keys. -/
theorem Made.device_id (h : inventory.Made) :
    ∀ id device, inventory.devices.get? id = some device → device.id = id := by
  induction h with
  | empty => exact nofun
  | insertDevice _ device ih =>
    intro id found hfound
    exact SortedMap.forall_get?_insert ih rfl hfound
  | @removeDevice before _ removed ih =>
    intro id device hdevice
    have hfound : (before.devices.erase removed).get? id = some device := hdevice
    rw [SortedMap.get?_erase, Option.ite_none_left_eq_some] at hfound
    exact ih id device hfound.2
  | insertTopic _ _ ih => exact ih
  | insertParameter _ _ ih => exact ih
  | deactivateParameter _ _ ih => exact ih
  | setUnavailable _ _ ih => exact ih

/-- What an inventory finds has the key that was asked for. -/
theorem Made.id_eq_of_device (h : inventory.Made) {id : Key .device} {device : Device}
    (hdevice : inventory.catalog.device id = .ok (some device)) : device.id = id := by
  have hfound : inventory.answer (inventory.devices.get? id) = .ok (some device) := hdevice
  unfold answer at hfound
  split at hfound
  · cases hfound
  · exact h.device_id id device (Except.ok.inj hfound)

end Inventory

end TelemetryAutomation
