import TelemetryAutomation.Proofs.Condition.Order
import TelemetryAutomation.Proofs.Json.Nesting

/-!
# Equality across types

Arrays are equal item by item. Of an object each field is looked up in the other one, but as both have the same
number of fields, they then have the same keys, so it does not matter which of them comes first. Numbers and texts
are equal as the order of values has it.

Main result: `Json.looseEq_reflexive_symmetric`.
-/

namespace TelemetryAutomation.Json

/-! ## Containers -/

theorem looseEqList_iff {items others : List Json} :
    looseEqList items others ↔ List.Forall₂ (fun item other => item.looseEq other) items others := by
  induction items generalizing others with
  | nil => cases others <;> simp [looseEqList]
  | cons item rest ih => cases others <;> simp [looseEqList, ih]

theorem looseEqList_comm {items others : List Json}
    (h : ∀ item ∈ items, ∀ other, item.looseEq other = other.looseEq item) :
    looseEqList items others = looseEqList others items := by
  induction items generalizing others with
  | nil => cases others <;> rfl
  | cons item rest ih =>
    obtain ⟨hitem, hrest⟩ := List.forall_mem_cons.mp h
    cases others with
    | nil => rfl
    | cons other others => rw [looseEqList, looseEqList, hitem, ih hrest]

theorem looseEqRow_iff {keys : List String} {row : Row Json keys} {others : Object} :
    looseEqRow row others ↔
      ∀ entry ∈ row.entries, ∃ other, others.get? entry.1 = some other ∧ entry.2.looseEq other := by
  induction row with
  | nil => simp [looseEqRow, Row.entries]
  | @cons key _ value rest ih =>
    rw [looseEqRow, Bool.and_eq_true, ih, Row.entries, List.forall_mem_cons]
    refine and_congr_left fun _ => ?_
    cases others.get? key <;> simp

/-- Arrays are equal if their items are, one by one. -/
theorem looseEq_arr_iff {items others : List Json} :
    looseEq (.arr items) (.arr others) ↔
      List.Forall₂ (fun item other => item.looseEq other) items others := by
  rw [looseEq, looseEqList_iff]

/-- Of an object each field is looked up in the other one. -/
theorem looseEq_obj_iff_size {fields others : Object} :
    looseEq (.obj fields) (.obj others) ↔
      fields.size = others.size ∧
        ∀ key value, fields.get? key = some value → ∃ other, others.get? key = some other ∧ value.looseEq other := by
  simp only [SortedMap.get?_eq_some_iff (m := fields)]
  obtain ⟨keys, sorted, row⟩ := fields
  rw [looseEq, Bool.and_eq_true, beq_iff_eq, looseEqRow_iff]
  exact and_congr_right fun _ => Prod.forall

/-- Objects are equal if they have the same keys and equal values under them. -/
theorem looseEq_obj_iff {fields others : Object} :
    looseEq (.obj fields) (.obj others) ↔
      fields.keys = others.keys ∧
        ∀ key value other, fields.get? key = some value → others.get? key = some other → value.looseEq other := by
  rw [looseEq_obj_iff_size]
  constructor
  · rintro ⟨hsize, hvalues⟩
    -- the other object has as many keys, so these are all
    have hsubset : fields.keys ⊆ others.keys := by
      intro key hkey
      obtain ⟨value, hvalue⟩ := SortedMap.mem_keys_iff.mp hkey
      obtain ⟨other, hother, -⟩ := hvalues key value hvalue
      exact SortedMap.mem_keys_iff.mpr ⟨other, hother⟩
    refine ⟨SortedMap.keys_eq_of_subset hsubset hsize.ge, fun key value other hvalue hother => ?_⟩
    obtain ⟨found, hfound, hequal⟩ := hvalues key value hvalue
    obtain rfl := Option.some.inj (hfound.symm.trans hother)
    exact hequal
  · rintro ⟨hkeys, hvalues⟩
    refine ⟨congrArg List.length hkeys, fun key value hvalue => ?_⟩
    have hkey : key ∈ fields.keys := SortedMap.mem_keys_iff.mpr ⟨value, hvalue⟩
    rw [hkeys] at hkey
    obtain ⟨other, hother⟩ := SortedMap.mem_keys_iff.mp hkey
    exact ⟨other, hother, hvalues key value other hvalue hother⟩

/-! ## Truth and texts -/

theorem looseEq_bool_left (b : Bool) (value : Json) : looseEq (.bool b) value = (b == value.isSet) := by
  cases value <;> rfl

theorem looseEq_bool_right (value : Json) (b : Bool) : looseEq value (.bool b) = (value.isSet == b) := by
  cases value <;> rfl

theorem looseEq_bool_comm (b : Bool) (value : Json) :
    looseEq (.bool b) value = looseEq value (.bool b) := by
  rw [looseEq_bool_left, looseEq_bool_right, Bool.beq_comm]

variable {left right : Json}

theorem looseEq_comm_of_isNumberOrText (hleft : left.isNumberOrText) (hright : right.isNumberOrText) :
    left.looseEq right = right.looseEq left := by
  rw [Bool.eq_iff_iff, ← order_eq_eq_iff hleft hright, ← order_eq_eq_iff hright hleft]
  exact Std.OrientedCmp.eq_comm

theorem looseEq_self_of_isNumberOrText (h : left.isNumberOrText) : left.looseEq left :=
  (order_eq_eq_iff h h).mp Std.ReflCmp.compare_self

/-! ## All values -/

theorem looseEq_self (value : Json) : value.looseEq value := by
  induction value using nested_ind with
  | null => rfl
  | bool b => exact beq_self_eq_true b
  | num n => exact looseEq_self_of_isNumberOrText rfl
  | str s => exact looseEq_self_of_isNumberOrText rfl
  | arr items ih => exact looseEq_arr_iff.mpr (List.forall₂_same.mpr ih)
  | obj fields ih =>
    refine looseEq_obj_iff.mpr ⟨rfl, fun key value other hvalue hother => ?_⟩
    obtain rfl := Option.some.inj (hvalue.symm.trans hother)
    exact ih key value hvalue

theorem looseEq_comm (left right : Json) : left.looseEq right = right.looseEq left := by
  -- values of two types are equal by rules that name the types in either order, or not at all
  induction left using nested_ind generalizing right with
  | null => cases right with
    | bool b => exact (looseEq_bool_comm b .null).symm
    | _ => rfl
  | bool b => exact looseEq_bool_comm b right
  | num n => cases right with
    | bool b => exact (looseEq_bool_comm b (.num n)).symm
    | num m => exact looseEq_comm_of_isNumberOrText rfl rfl
    | str s => exact looseEq_comm_of_isNumberOrText rfl rfl
    | _ => rfl
  | str s => cases right with
    | bool b => exact (looseEq_bool_comm b (.str s)).symm
    | num m => exact looseEq_comm_of_isNumberOrText rfl rfl
    | str t => exact looseEq_comm_of_isNumberOrText rfl rfl
    | _ => rfl
  | arr items ih => cases right with
    | bool b => exact (looseEq_bool_comm b (.arr items)).symm
    | arr others =>
      rw [looseEq, looseEq]
      exact looseEqList_comm ih
    | _ => rfl
  | obj fields ih => cases right with
    | bool b => exact (looseEq_bool_comm b (.obj fields)).symm
    | obj others =>
      rw [Bool.eq_iff_iff, looseEq_obj_iff, looseEq_obj_iff]
      refine and_congr eq_comm ⟨fun h key other value hother hvalue => ?_, fun h key value other hvalue hother => ?_⟩
      · rw [← ih key value hvalue]
        exact h key value other hvalue hother
      · rw [ih key value hvalue]
        exact h key other value hother hvalue
    | _ => rfl

/-- **Equality across types is reflexive and symmetric**, whatever the types of the values and however deep they
nest. Arrays are equal item by item, and objects if they have the same keys and equal values under them. -/
theorem looseEq_reflexive_symmetric :
    (∀ value : Json, value.looseEq value) ∧
      (∀ left right : Json, left.looseEq right = right.looseEq left) ∧
      (∀ items others : List Json, looseEq (.arr items) (.arr others) ↔
        List.Forall₂ (fun item other => item.looseEq other) items others) ∧
      ∀ fields others : Object, looseEq (.obj fields) (.obj others) ↔
        fields.keys = others.keys ∧ ∀ key value other,
          fields.get? key = some value → others.get? key = some other → value.looseEq other :=
  ⟨looseEq_self, looseEq_comm, fun _ _ => looseEq_arr_iff, fun _ _ => looseEq_obj_iff⟩

/-- It is not transitive: a text may be equal to a number and to a boolean that are not equal to each other. -/
example :
    looseEq (.ofInt64 0) (.str "0.0") ∧ looseEq (.str "0.0") (.bool true) ∧
      ¬ looseEq (.ofInt64 0) (.bool true) := by
  decide +kernel

end TelemetryAutomation.Json
