import TelemetryAutomation.Json.Basic
import TelemetryAutomation.Proofs.SortedMap

/-!
# Values within values

A container is greater than the items or values that it holds. So no value lies within itself, and what holds of
all scalars and is passed on from the parts of a container to the container holds of all values
(`Json.nested_ind`).
-/

namespace TelemetryAutomation

/-! ## Containers are greater than their parts -/

theorem Row.sizeOf_lt_of_mem {keys : List String} {row : Row Json keys} {key : String} {value : Json}
    (h : (key, value) ∈ row.entries) : sizeOf value < sizeOf row := by
  induction row with
  | nil => simp [entries] at h
  | cons first rest ih =>
    rw [entries, List.mem_cons, Prod.mk.injEq] at h
    rw [cons.sizeOf_spec]
    rcases h with ⟨-, rfl⟩ | hrest
    · omega
    · have hsize := ih hrest
      omega

theorem Object.sizeOf_lt_of_get? {fields : Object} {key : String} {value : Json}
    (h : fields.get? key = some value) : sizeOf value < sizeOf fields := by
  have hmem : (key, value) ∈ fields.values.entries := SortedMap.get?_eq_some_iff.mp h
  have hrow := Row.sizeOf_lt_of_mem hmem
  cases fields
  rw [SortedMap.mk.sizeOf_spec]
  dsimp only at hrow
  omega

namespace Json

theorem sizeOf_lt_of_field? {value inner : Json} {key : String}
    (h : value.field? key = some inner) : sizeOf inner < sizeOf value := by
  cases value with
  | obj fields =>
    have hinner := Object.sizeOf_lt_of_get? h
    rw [obj.sizeOf_spec]
    omega
  | _ => cases h

theorem sizeOf_lt_of_item {items : List Json} {item : Json} (h : item ∈ items) :
    sizeOf item < sizeOf (arr items) := by
  have hitem := List.sizeOf_lt_of_mem h
  rw [arr.sizeOf_spec]
  omega

/-! ## Induction over nested values -/

/-- Whatever holds of scalars, and of a container if it holds of all that the container holds, holds of every
value. -/
@[elab_as_elim]
theorem nested_ind {motive : Json → Prop} (null : motive .null) (bool : ∀ b, motive (.bool b))
    (num : ∀ n, motive (.num n)) (str : ∀ s, motive (.str s))
    (arr : ∀ items : List Json, (∀ item ∈ items, motive item) → motive (.arr items))
    (obj : ∀ fields : Object, (∀ key value, fields.get? key = some value → motive value) →
      motive (.obj fields))
    (value : Json) : motive value := by
  induction hsize : sizeOf value using Nat.strongRecOn generalizing value with
  | _ size ih =>
    subst hsize
    cases value with
    | null => exact null
    | bool b => exact bool b
    | num n => exact num n
    | str s => exact str s
    | arr items => exact arr items fun item hitem => ih _ (sizeOf_lt_of_item hitem) item rfl
    | obj fields =>
      refine obj fields fun key value hvalue => ih _ ?_ value rfl
      have hfield : (Json.obj fields).field? key = some value := hvalue
      exact sizeOf_lt_of_field? hfield

end Json

end TelemetryAutomation
