import TelemetryAutomation.SortedMap.Basic

/-!
# JSON values

A value is a scalar, a list of values or an object. Objects are sorted maps, so two objects with the
same entries are equal and are visited in the order of their keys.

Numbers keep the kind in which they were written. An integer fits 64 bits, with or without sign, and
a float is finite; both bounds are part of the type. The kinds never mix: the integer `1` and the
float `1.0` are different values.
-/

namespace TelemetryAutomation

/-- A number: an integer that fits 64 bits, or a finite double. -/
inductive Number where
  | int (n : Int) (inRange : -0x8000000000000000 ≤ n ∧ n < 0x10000000000000000)
  | float (x : Float) (finite : x.isFinite)
deriving DecidableEq

/-- A JSON value. -/
inductive Json where
  | null
  | bool (b : Bool)
  | num (n : Number)
  | str (s : String)
  | arr (items : List Json)
  | obj (fields : SortedMap String Json)

/-- The entries of a JSON object. -/
abbrev Object := SortedMap String Json

namespace Number

/-- The nearest double. -/
def toFloat : Number → Float
  | .int n _ => Float.ofInt n
  | .float x _ => x

/-- The value of an integer that fits 64 bits with sign. -/
def toInt64? : Number → Option Int64
  | .int n _ => if n < 0x8000000000000000 then some (Int64.ofInt n) else none
  | .float _ _ => none

/-- Whether the number is an integer. -/
def isInt : Number → Bool
  | .int _ _ => true
  | .float _ _ => false

/-- Equality of numbers of one kind. Floats are compared as numbers: both zeros are equal. -/
def strictEq : Number → Number → Bool
  | .int m _, .int n _ => m = n
  | .float x _, .float y _ => x == y
  | _, _ => false

end Number

namespace Json

instance : Inhabited Json := ⟨.null⟩

/-! ### Building values -/

/-- A double as a value; one that is not finite has no number and becomes `null`. -/
def ofFloat (x : Float) : Json := if h : x.isFinite then .num (.float x h) else .null

/-- An integer as a value; one beyond 64 bits becomes a float. -/
def ofInt (n : Int) : Json :=
  if h : -0x8000000000000000 ≤ n ∧ n < 0x10000000000000000 then .num (.int n h)
  else ofFloat (Float.ofInt n)

/-- An integer of 64 bits as a value. -/
def ofInt64 (n : Int64) : Json :=
  .num (.int n.toInt ⟨n.le_toInt, Int.lt_trans n.toInt_lt (by decide)⟩)

/-- A natural number as a value. -/
def ofNat (n : Nat) : Json := ofInt n

/-- A text as a value, `null` for none. -/
def ofStr? : Option String → Json
  | some s => .str s
  | none => .null

/-- The object of a list of fields. -/
def object (fields : List (String × Json)) : Json := .obj (.ofList fields)

/-- A list of texts as a value. -/
def ofStrings (texts : List String) : Json := .arr (texts.map .str)

/-! ### Taking values apart -/

/-- The text of a string. -/
def str? : Json → Option String
  | .str s => some s
  | _ => none

/-- The entries of an object. -/
def obj? : Json → Option Object
  | .obj fields => some fields
  | _ => none

/-- The items of an array. -/
def arr? : Json → Option (List Json)
  | .arr items => some items
  | _ => none

/-- The value under a key of an object; other values have no fields. -/
def field? (value : Json) (key : String) : Option Json := value.obj?.bind (·.get? key)

/-- Whether the value is `null`. -/
def isNull : Json → Bool
  | .null => true
  | _ => false

/-! ### Equality -/

mutual

/-- Equality of values is decided field by field. -/
def decEq : (a b : Json) → Decidable (a = b)
  | .null, .null => .isTrue rfl
  | .bool a, .bool b => if h : a = b then .isTrue (by rw [h]) else .isFalse (by simpa using h)
  | .num a, .num b => if h : a = b then .isTrue (by rw [h]) else .isFalse (by simpa using h)
  | .str a, .str b => if h : a = b then .isTrue (by rw [h]) else .isFalse (by simpa using h)
  | .arr a, .arr b =>
    match decEqList a b with
    | .isTrue h => .isTrue (by rw [h])
    | .isFalse h => .isFalse (by simpa using h)
  | .obj ⟨keys, _, row⟩, .obj ⟨keys', _, row'⟩ =>
    if h : keys = keys' then by
      subst h
      exact match decEqRow row row' with
        | .isTrue h => .isTrue (by rw [h])
        | .isFalse h => .isFalse (by simpa using h)
    else .isFalse (by simp [h])
  | .null, .bool _ | .null, .num _ | .null, .str _ | .null, .arr _ | .null, .obj _ => .isFalse nofun
  | .bool _, .null | .bool _, .num _ | .bool _, .str _ => .isFalse nofun
  | .bool _, .arr _ | .bool _, .obj _ => .isFalse nofun
  | .num _, .null | .num _, .bool _ | .num _, .str _ | .num _, .arr _ | .num _, .obj _ =>
    .isFalse nofun
  | .str _, .null | .str _, .bool _ | .str _, .num _ | .str _, .arr _ | .str _, .obj _ =>
    .isFalse nofun
  | .arr _, .null | .arr _, .bool _ | .arr _, .num _ | .arr _, .str _ | .arr _, .obj _ =>
    .isFalse nofun
  | .obj _, .null | .obj _, .bool _ | .obj _, .num _ | .obj _, .str _ | .obj _, .arr _ =>
    .isFalse nofun
termination_by structural a => a

def decEqList : (a b : List Json) → Decidable (a = b)
  | [], [] => .isTrue rfl
  | [], _ :: _ | _ :: _, [] => .isFalse nofun
  | x :: xs, y :: ys =>
    match decEq x y, decEqList xs ys with
    | .isTrue h, .isTrue h' => .isTrue (by rw [h, h'])
    | .isFalse h, _ => .isFalse (by simp [h])
    | _, .isFalse h => .isFalse (by simp [h])
termination_by structural a => a

def decEqRow {keys : List String} : (a b : Row Json keys) → Decidable (a = b)
  | .nil, .nil => .isTrue rfl
  | .cons x xs, .cons y ys =>
    match decEq x y, decEqRow xs ys with
    | .isTrue h, .isTrue h' => .isTrue (by rw [h, h'])
    | .isFalse h, _ => .isFalse (by simp [h])
    | _, .isFalse h => .isFalse (by simp [h])
termination_by structural a => a

end

instance : DecidableEq Json := decEq

mutual

/-- Equality without any conversion between types: numbers are equal only within their kind. It
differs from `=` in the zeros alone. -/
def strictEq : Json → Json → Bool
  | .null, .null => true
  | .bool a, .bool b => a == b
  | .num a, .num b => a.strictEq b
  | .str a, .str b => a == b
  | .arr a, .arr b => strictEqList a b
  | .obj ⟨_, _, row⟩, .obj ⟨_, _, row'⟩ => strictEqRow row row'
  | _, _ => false
termination_by structural a => a

def strictEqList : List Json → List Json → Bool
  | [], [] => true
  | x :: xs, y :: ys => strictEq x y && strictEqList xs ys
  | _, _ => false
termination_by structural a => a

def strictEqRow {keys keys' : List String} : Row Json keys → Row Json keys' → Bool
  | .nil, .nil => true
  | .cons (k := key) x xs, .cons (k := key') y ys =>
    key == key' && strictEq x y && strictEqRow xs ys
  | _, _ => false
termination_by structural a => a

end

end Json

/-- How a type is written as a value. -/
class ToJson (α : Type) where
  toJson : α → Json

export ToJson (toJson)

instance : ToJson Json := ⟨id⟩
instance : ToJson Object := ⟨.obj⟩
instance : ToJson String := ⟨.str⟩
instance : ToJson Bool := ⟨.bool⟩
instance : ToJson Nat := ⟨.ofNat⟩
instance : ToJson Int64 := ⟨.ofInt64⟩
instance : ToJson UInt32 := ⟨fun n => .ofNat n.toNat⟩
instance : ToJson Float := ⟨.ofFloat⟩

instance {α : Type} [ToJson α] : ToJson (List α) := ⟨fun items => .arr (items.map toJson)⟩

instance {α : Type} [ToJson α] : ToJson (Option α) where
  toJson
    | some value => toJson value
    | none => .null

/-- A field that is left out where it has no value. -/
def optionalField {α : Type} [ToJson α] (name : String) (value : Option α) : List (String × Json) :=
  (value.map fun value => (name, toJson value)).toList

end TelemetryAutomation
