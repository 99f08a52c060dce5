import TelemetryAutomation.Json.Record
import TelemetryAutomation.Proofs.SortedMap

/-!
# Values and their documents

A value is written as a document that stands for the value again (`toJson?_toDocument`). In the document of
an object each field stands once, under its name, so what reads a record from it finds just what a lookup in
the object finds (`RecordReader.defaulted_bind_ofObject`).
-/

namespace TelemetryAutomation

namespace Json

theorem field?_object (fields : List (String × Json)) (name : String) :
    (Json.object fields).field? name = fields.reverse.lookup name :=
  SortedMap.get?_ofList fields name

mutual

/-- The document of a value stands for the value. -/
theorem toJson?_toDocument : ∀ value : Json, value.toDocument.toJson? = some value
  | .null => rfl
  | .bool _ => rfl
  | .num _ => rfl
  | .str _ => rfl
  | .arr items => by
    rw [toDocument, Document.toJson?, itemsToJson?_itemsToDocument items]
    rfl
  | .obj ⟨names, sorted, row⟩ => by
    have hfields : SortedMap.ofList row.entries = ⟨names, sorted, row⟩ :=
      SortedMap.ofList_entries ⟨names, sorted, row⟩
    rw [toDocument, Document.toJson?, fieldsToJson?_rowToDocument row, ← hfields]
    rfl

theorem itemsToJson?_itemsToDocument :
    ∀ items : List Json, Document.itemsToJson? (itemsToDocument items) = some items
  | [] => rfl
  | item :: rest => by
    rw [itemsToDocument, Document.itemsToJson?, toJson?_toDocument item,
      itemsToJson?_itemsToDocument rest]
    rfl

theorem fieldsToJson?_rowToDocument :
    ∀ {names : List String} (row : Row Json names),
      Document.fieldsToJson? (rowToDocument row) = some row.entries
  | _, .nil => rfl
  | _, .cons value rest => by
    rw [rowToDocument, Document.fieldsToJson?, toJson?_toDocument value,
      fieldsToJson?_rowToDocument rest]
    rfl

end

theorem rowToDocument_eq : ∀ {names : List String} (row : Row Json names),
    rowToDocument row = row.entries.map fun entry => (entry.1, entry.2.toDocument)
  | _, .nil => rfl
  | _, .cons value rest => by
    rw [rowToDocument, Row.entries, List.map_cons, rowToDocument_eq rest]

theorem toDocument_obj (fields : Object) :
    (Json.obj fields).toDocument = .obj (fields.entries.map fun entry => (entry.1, entry.2.toDocument)) := by
  obtain ⟨names, sorted, row⟩ := fields
  rw [toDocument, rowToDocument_eq]
  rfl

/-- A value is read as it is. -/
theorem read_eq_ok (value : Json) : value.read = .ok value := by
  have hread : FromDocument.value value.toDocument = .ok value := by
    rw [FromDocument.value, toJson?_toDocument]
  exact hread

theorem read_obj_eq_ok (fields : Object) : FromDocument.read (Json.obj fields).toDocument = .ok fields := by
  have hread : FromDocument.object "a map" (Json.obj fields).toDocument = .ok fields := by
    rw [FromDocument.object, FromDocument.value, toJson?_toDocument]
    rfl
  exact hread

theorem read_ofInt64 (n : Int64) : (Json.ofInt64 n).read = .ok n := by
  have hlow : -0x8000000000000000 ≤ n.toInt := n.le_toInt
  have hhigh : n.toInt ≤ 0x7fffffffffffffff := Int.le_of_lt_add_one n.toInt_lt
  have hread : (FromDocument.integer (-0x8000000000000000) 0x7fffffffffffffff "i64"
      (Json.ofInt64 n).toDocument).map Int64.ofInt = .ok n := by
    rw [ofInt64, toDocument, FromDocument.integer, if_pos ⟨hlow, hhigh⟩, Except.map, Int64.ofInt_toInt]
  exact hread

/-- Only the integers of 64 bits are read as such. -/
theorem read_eq_ok_iff_ofInt64 {value : Json} {n : Int64} : value.read = .ok n ↔ value = .ofInt64 n := by
  constructor
  · intro h
    have hread : (FromDocument.integer (-0x8000000000000000) 0x7fffffffffffffff "i64" value.toDocument).map
        Int64.ofInt = .ok n := h
    cases value with
    | num number =>
      cases number with
      | int m hrange =>
        rw [toDocument, FromDocument.integer] at hread
        split at hread
        · next hm =>
          obtain rfl : Int64.ofInt m = n := Except.ok.inj hread
          have hm : (Int64.ofInt m).toInt = m := Int64.toInt_ofInt_of_le (by omega) (by omega)
          simp only [ofInt64, hm]
        · cases hread
      | float => cases hread
    | _ => cases hread
  · rintro rfl
    exact read_ofInt64 n

end Json

/-! ## Records in objects -/

/-- The fields of an object, each with its document. -/
def RecordFields.ofObject (fields : Object) : RecordFields :=
  .named (fields.entries.map fun entry => (entry.1, entry.2.toDocument))

/-- Reads a type from the value under a name, with a value of its own where there is none. -/
def Object.readD {α : Type} [FromDocument α] (fields : Object) (name : String) (value : α) :
    Except ReadError α :=
  ((fields.get? name).map Json.read).getD (.ok value)

namespace RecordReader

theorem read_obj {α : Type} (reader : RecordReader α) (fields : Object) :
    reader.read (Json.obj fields).toDocument = (·.1) <$> reader.run (.ofObject fields) := by
  rw [Json.toDocument_obj]
  rfl

theorem next?_ofObject (fields : Object) (name : String) :
    (next? name).run (.ofObject fields) =
      .ok ((fields.get? name).map Json.toDocument, .ofObject fields) := by
  -- a name stands at most once in an object, so no field is repeated
  have hfields : (fields.entries.map fun entry => (entry.1, entry.2.toDocument)).filter (·.1 = name) =
      (fields.get? name).toList.map fun value => (name, value.toDocument) := by
    rw [List.filter_map, Function.comp_def, SortedMap.entries_filter_key, List.map_map]
    rfl
  simp only [next?, RecordFields.ofObject, StateT.run_bind, StateT.run_get, pure_bind, hfields]
  cases fields.get? name <;> rfl

/-- A field is what a lookup finds, and the fields stay as they are for the next one. -/
theorem defaulted_bind_ofObject {α β : Type} [FromDocument α] (fields : Object) (name : String)
    (value : α) (next : α → RecordReader β) :
    (defaulted name value >>= next).run (.ofObject fields) =
      fields.readD name value >>= fun read => (next read).run (.ofObject fields) := by
  rw [StateT.run_bind, defaulted, StateT.run_bind, next?_ofObject]
  cases hfound : fields.get? name with
  | none =>
    rw [Object.readD, hfound]
    rfl
  | some found =>
    have hread : fields.readD name value = FromDocument.read found.toDocument := by
      rw [Object.readD, hfound]
      rfl
    rw [hread]
    change ((do
      let read ← FromDocument.read found.toDocument
      return (read, RecordFields.ofObject fields)) >>= _) = _
    cases FromDocument.read (α := α) found.toDocument <;> rfl

/-- Any value can be read as it is, so such a field is never refused. -/
theorem defaulted_null_bind_ofObject {β : Type} (fields : Object) (name : String)
    (next : Json → RecordReader β) :
    (defaulted name Json.null >>= next).run (.ofObject fields) =
      (next ((fields.get? name).getD .null)).run (.ofObject fields) := by
  rw [defaulted_bind_ofObject, Object.readD]
  cases fields.get? name with
  | none => rfl
  | some value =>
    rw [Option.map_some, Option.getD_some, value.read_eq_ok]
    rfl

/-- The other fields of an object can be read, whatever they are. -/
theorem others_bind_ofObject {β : Type} (fields : Object) (names : List String)
    (next : Object → RecordReader β) :
    (others names >>= next).run (.ofObject fields) =
      (next (fields.filterKeys (· ∉ names))).run (.ofObject fields) := by
  have hdocument : Document.obj ((fields.entries.map fun entry => (entry.1, entry.2.toDocument)).filter
      (·.1 ∉ names)) = (Json.obj (fields.filterKeys (· ∉ names))).toDocument := by
    rw [Json.toDocument_obj, SortedMap.filterKeys, SortedMap.entries_ofSorted, List.filter_map]
    rfl
  simp only [others, RecordFields.ofObject, StateT.run_bind, StateT.run_get, pure_bind, hdocument,
    Json.read_obj_eq_ok]
  rfl

end RecordReader

end TelemetryAutomation
