import TelemetryAutomation.Json.Path
import TelemetryAutomation.Proofs.Json.Nesting
import TelemetryAutomation.Proofs.Text.Pieces

/-!
# Two ways to follow a path

A path can be followed from an object as a value, step by step, or from its entries, where the first step is
taken apart and the rest is a path of its own. The two ways part where that rest is empty: as a path it stays
where it is, while as a step it asks for the field without a name.

Main result: `Object.lookup_eq_lookup_iff`.
-/

namespace TelemetryAutomation

/-! ## Following a path -/

namespace Json

theorem follow_cons (value : Json) (step : List Char) (steps : List (List Char)) :
    value.follow (step :: steps) = (value.step? step).bind (·.follow steps) :=
  List.foldlM_cons

/-- The empty step leads to the field without a name. -/
theorem step?_nil (value : Json) : value.step? [] = value.field? "" := by
  cases value <;> rfl

theorem lookupChars_of_ne_nil (value : Json) {path : List Char} (h : path ≠ []) :
    value.lookupChars path = value.follow (Text.pieces '.' path) := by
  rw [lookupChars, if_neg (by simpa using h)]

end Json

namespace Object

/-- From the entries the first step is taken by key, and the rest is a path of its own. -/
theorem lookup_of_cut {fields : Object} {path : String} {head rest : List Char}
    (h : Text.cut '.' path.toList = some (head, rest)) :
    fields.lookup path = (fields.get? (.ofList head)).bind (·.lookupChars rest) := by
  rw [lookup, h]

/-- From the value all steps are alike. -/
theorem lookup_obj_of_cut (fields : Object) {path : String} {head rest : List Char}
    (h : Text.cut '.' path.toList = some (head, rest)) :
    (Json.obj fields).lookup path =
      (fields.get? (.ofList head)).bind (·.follow (Text.pieces '.' rest)) := by
  obtain ⟨hpath, hhead⟩ := Text.cut_eq_some_iff.mp h
  have hne : path.toList ≠ [] := by simp [hpath]
  rw [Json.lookup, Json.lookupChars_of_ne_nil _ hne, hpath, Text.pieces_append hhead, Json.follow_cons]
  rfl

/-- A path of one step is a key for both. -/
theorem lookup_obj_of_not_mem (fields : Object) {path : String} (hpath : path ≠ "")
    (h : '.' ∉ path.toList) : (Json.obj fields).lookup path = fields.lookup path := by
  have hne : path.toList ≠ [] := by simpa using hpath
  rw [Json.lookup, Json.lookupChars_of_ne_nil _ hne, Text.pieces_of_not_mem h, Json.follow_cons, lookup,
    Text.cut_eq_none_iff.mpr h]
  show (fields.get? (.ofList path.toList)).bind some = fields.get? path
  rw [Option.bind_fun_some, String.ofList_toList]

/-- A path that consists of a key of the object and a point behind it. -/
def Trails (fields : Object) (path : String) (value : Json) : Prop :=
  ∃ key : String, '.' ∉ key.toList ∧ path = key ++ "." ∧ fields.get? key = some value

variable {fields : Object} {path : String} {value : Json}

theorem cut_of_trails (h : fields.Trails path value) :
    ∃ head, Text.cut '.' path.toList = some (head, []) ∧ fields.get? (.ofList head) = some value := by
  obtain ⟨key, hkey, rfl, hvalue⟩ := h
  refine ⟨key.toList, Text.cut_eq_some_iff.mpr ⟨?_, hkey⟩, ?_⟩
  · rw [String.toList_append]
    rfl
  · rwa [String.ofList_toList]

theorem Trails.lookup_eq (h : fields.Trails path value) : fields.lookup path = some value := by
  obtain ⟨head, hcut, hvalue⟩ := cut_of_trails h
  rw [lookup_of_cut hcut, hvalue]
  rfl

theorem Trails.lookup_obj_eq (h : fields.Trails path value) :
    (Json.obj fields).lookup path = value.field? "" := by
  obtain ⟨head, hcut, hvalue⟩ := cut_of_trails h
  rw [lookup_obj_of_cut fields hcut, hvalue, ← Json.step?_nil]
  exact Option.bind_fun_some _

/-- Apart from a trailing point, nothing lies between the two lookups. -/
theorem lookup_eq_of_not_trails (hpath : path ≠ "") (h : ∀ value, ¬ fields.Trails path value) :
    fields.lookup path = (Json.obj fields).lookup path := by
  cases hcut : Text.cut '.' path.toList with
  | none => exact (lookup_obj_of_not_mem fields hpath (Text.cut_eq_none_iff.mp hcut)).symm
  | some parts =>
    obtain ⟨head, rest⟩ := parts
    obtain ⟨heq, hhead⟩ := Text.cut_eq_some_iff.mp hcut
    rw [lookup_of_cut hcut, lookup_obj_of_cut fields hcut]
    cases hvalue : fields.get? (.ofList head) with
    | none => rfl
    | some value =>
      have hrest : rest ≠ [] := by
        rintro rfl
        refine h value ⟨.ofList head, by simpa using hhead, ?_, hvalue⟩
        rw [← String.toList_inj, String.toList_append, String.toList_ofList, heq]
        rfl
      exact Json.lookupChars_of_ne_nil value hrest

/-- **The two lookups agree** on every path that is not empty, but for a key of the object with a point behind
it. There one finds the value of the key, and the other looks for a field without a name inside that value. -/
theorem lookup_eq_lookup_iff (fields : Object) (path : String) :
    (fields.lookup path = (Json.obj fields).lookup path ↔
      path ≠ "" ∧ ∀ value, ¬ fields.Trails path value) ∧
    ∀ value, fields.Trails path value →
      fields.lookup path = some value ∧ (Json.obj fields).lookup path = value.field? "" := by
  refine ⟨⟨fun heq => ⟨?_, ?_⟩, fun h => lookup_eq_of_not_trails h.1 h.2⟩,
    fun value h => ⟨h.lookup_eq, h.lookup_obj_eq⟩⟩
  · rintro rfl
    -- the empty path leads to the object itself, and no key leads back to it
    have hself : fields.get? "" = some (.obj fields) := heq
    have hsize := sizeOf_lt_of_get? hself
    rw [Json.obj.sizeOf_spec] at hsize
    omega
  · intro value h
    have hself : value.field? "" = some value := by
      rw [← h.lookup_obj_eq, ← heq, h.lookup_eq]
    exact absurd (Json.sizeOf_lt_of_field? hself) (lt_irrefl _)

end Object

namespace Sample

/-- An object with one field. -/
def single : Object := .ofList [("a", .bool true)]

end Sample

/-- With a point behind the key, the value is found from the entries only. -/
theorem Object.lookup_ne_lookup_trailing :
    "a." ≠ "" ∧ Sample.single.lookup "a." = some (.bool true) ∧
      (Json.obj Sample.single).lookup "a." = none := by
  decide +kernel

end TelemetryAutomation
