import TelemetryAutomation.Json.Document
import TelemetryAutomation.Json.Printer
import TelemetryAutomation.Text.Quoted

/-!
# Reading records from documents

`FromDocument` says how a type is read. A record is read field by field in a fixed order, either by
name from an object or by position from an array. Fields that no one asks for are passed over in an
object and refused in an array; a field asked for that occurs twice is refused. Of a field passed
over only the form counts, so its value may be flawed. A record that is always an object can keep
the fields passed over instead, and then they are read.

A field is *required*, *optional* or *defaulted*. An optional field may be `null`; a missing one is
absent. In an array only fields with a default may be missing, and only at the end.
-/

namespace TelemetryAutomation

/-- Why a document does not hold what is wanted. -/
inductive ReadError
  /-- The document is of another type. -/
  | mismatch (found : Document) (expected : String)
  /-- The document is of the right type, but its value is not among those wanted. -/
  | outside (found : Document) (expected : String)
  | missing (field : String)
  | repeated (field : String)
  | tooLong
  /-- A part of the document stands for no value. -/
  | flawed

namespace ReadError

/-- A document as it is named in a message. -/
def describe : Document → String
  | .null => "null"
  | .bool b => "boolean `" ++ (Json.bool b).text ++ "`"
  | .num n => (if n.isInt then "integer `" else "floating point `") ++ n.text ++ "`"
  | .str s => "string " ++ Text.quoted s
  | .arr _ => "sequence"
  | .obj _ => "map"
  | .flawed => "a part without a value"

/-- The wording of an error. -/
def message : ReadError → String
  | .mismatch found expected => s!"invalid type: {describe found}, expected {expected}"
  | .outside found expected => s!"invalid value: {describe found}, expected {expected}"
  | .missing field => s!"missing field `{field}`"
  | .repeated field => s!"duplicate field `{field}`"
  | .tooLong => "too many items for a record"
  | .flawed => "a part of the document has no value"

end ReadError

/-- How a type is read from a document. -/
class FromDocument (α : Type) where
  read : Document → Except ReadError α

/-! ### Scalars and containers -/

namespace FromDocument

/-- Reads an integer between two bounds. -/
def integer (low high : Int) (expected : String) : Document → Except ReadError Int
  | .num (.int n h) =>
    if low ≤ n ∧ n ≤ high then .ok n else .error (.outside (.num (.int n h)) expected)
  | found => .error (.mismatch found expected)

/-- Reads any value. -/
def value (document : Document) : Except ReadError Json :=
  match document.toJson? with
  | some value => .ok value
  | none => .error .flawed

/-- Reads an object. -/
def object (expected : String) (document : Document) : Except ReadError Object := do
  match ← value document with
  | .obj fields => return fields
  | _ => throw (.mismatch document expected)

instance : FromDocument Json := ⟨value⟩

instance : FromDocument Int64 where
  read document := (integer (-0x8000000000000000) 0x7fffffffffffffff "i64" document).map Int64.ofInt

instance : FromDocument UInt32 where
  read document := (integer 0 0xffffffff "an integer of 32 bits" document).map fun n => .ofNat n.toNat

instance : FromDocument Nat where
  read document := (integer 0 0xffffffffffffffff "a natural number of 64 bits" document).map Int.toNat

instance : FromDocument Float where
  read
    | .num n => .ok n.toFloat
    | found => .error (.mismatch found "a number")

instance : FromDocument Bool where
  read
    | .bool b => .ok b
    | found => .error (.mismatch found "a boolean")

instance : FromDocument String where
  read
    | .str s => .ok s
    | found => .error (.mismatch found "a string")

instance : FromDocument Object := ⟨object "a map"⟩

instance {α : Type} [FromDocument α] : FromDocument (List α) where
  read
    | .arr items => items.mapM FromDocument.read
    | found => .error (.mismatch found "a sequence")

instance {α : Type} [FromDocument α] : FromDocument (Option α) where
  read
    | .null => .ok none
    | document => (FromDocument.read document).map some

/-- Reads one of some named constants: its name, or an object that gives the name `null`. -/
def constant {α : Type} (constants : List (String × α)) (document : Document) :
    Except ReadError α :=
  let named (name : String) : Except ReadError α :=
    match constants.lookup name with
    | some value => .ok value
    | none => .error (.outside document "a known name")
  match document with
  | .str name => named name
  | .obj [(name, .null)] => named name
  | found => .error (.mismatch found "a name")

end FromDocument

/-! ### Records -/

/-- The fields of a record that are still to be read. -/
inductive RecordFields
  | named (fields : List (String × Document))
  | positional (items : List Document)

/-- Reads the fields of a record one after the other. -/
abbrev RecordReader := StateT RecordFields (Except ReadError)

namespace RecordReader

/-- The next field: the one of the given name, or the next item. -/
def next? (name : String) : RecordReader (Option Document) := do
  match ← get with
  | .named fields =>
    match fields.filter (·.1 = name) with
    | [] => return none
    | [(_, document)] => return some document
    | _ => throw (.repeated name)
  | .positional [] => return none
  | .positional (item :: rest) =>
    set (RecordFields.positional rest)
    return some item

/-- A field that has to be there. -/
def required {α : Type} [FromDocument α] (name : String) : RecordReader α := do
  match ← next? name with
  | some document => FromDocument.read document
  | none => throw (.missing name)

/-- A field with a value of its own where it is missing. -/
def defaulted {α : Type} [FromDocument α] (name : String) (value : α) : RecordReader α := do
  match ← next? name with
  | some document => FromDocument.read document
  | none => return value

/-- A field that may be missing or `null`. -/
def optional {α : Type} [FromDocument α] (name : String) : RecordReader (Option α) :=
  defaulted name none

/-- A field that may be missing from an object, but not from an array. -/
def nullable {α : Type} [FromDocument α] (name : String) : RecordReader (Option α) := do
  match ← get with
  | .named _ => optional name
  | .positional _ => required name

/-- The fields with none of some names, which have to be those of an object. -/
def others (names : List String) : RecordReader Object := do
  match ← get with
  | .named fields => FromDocument.read (.obj (fields.filter (·.1 ∉ names)))
  | .positional items => throw (.mismatch (.arr items) "a map")

end RecordReader

/-- Reads a record from an object or an array. -/
def RecordReader.read {α : Type} (reader : RecordReader α) : Document → Except ReadError α
  | .obj fields => (·.1) <$> reader.run (.named fields)
  | .arr items => do
    match ← reader.run (.positional items) with
    | (value, .positional []) => return value
    | _ => throw .tooLong
  | found => .error (.mismatch found "a record")

/-- Reads a type from a value. -/
def Json.read {α : Type} [FromDocument α] (value : Json) : Except ReadError α :=
  FromDocument.read value.toDocument

end TelemetryAutomation
