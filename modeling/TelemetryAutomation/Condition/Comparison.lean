import TelemetryAutomation.Json.Printer
import TelemetryAutomation.Json.Scalar
import TelemetryAutomation.Text.Lowercase

/-!
# Comparing values

Conditions compare values across their types. Two values that both hold numbers, as numbers or as
texts, are compared as numbers; otherwise their texts are compared.

There are three notions of truth. `isSet` is the plain one, `isTruthy` and `holds` also look into
texts: words such as `off` are false whatever their case.
-/

namespace TelemetryAutomation.Json

/-- Whether a value is neither empty nor zero; of the texts only `""` and `"0"` count as such. -/
def isSet : Json → Bool
  | .null => false
  | .bool b => b
  | .num n => n.toFloat != 0
  | .str s => !(s = "" || s = "0")
  | .arr items => !items.isEmpty
  | .obj fields => !fields.isEmpty

/-- Floats that are whole numbers below this bound are written without point. -/
def wholeBound : Float := 1e15

/-- A number as the text that stands for it in comparisons. -/
def numberText (n : Number) : String :=
  match n.toInt64? with
  | some i => Text.decimal i.toInt
  | none =>
    let x := n.toFloat
    if x == x.floor && x.abs < wholeBound then
      Decimal.Layout.text ⟨fun _ => true, false, .toEven⟩ x
    else n.text

/-- The text that stands for a value in comparisons; what is no scalar has none. -/
def scalarText : Json → String
  | .bool true => "1"
  | .num n => numberText n
  | .str s => s
  | _ => ""

/-- Compares numbers; one that is no number would be equal to all. -/
def compareNumbers (x y : Float) : Ordering :=
  if x < y then .lt else if y < x then .gt else .eq

/-- Compares two values as numbers if both hold one, else as texts. -/
def order (left right : Json) : Ordering :=
  match left.number?, right.number? with
  | some x, some y => compareNumbers x y
  | _, _ => compare left.scalarText right.scalarText

mutual

/-- Equality across types. Booleans are equal to whatever has their truth, `null` to what is not set,
and texts to the numbers that they write. -/
def looseEq : Json → Json → Bool
  | .null, .null => true
  | .bool a, right => a == right.isSet
  | left, .bool b => left.isSet == b
  | .null, .str s => s.isEmpty
  | .str s, .null => s.isEmpty
  | .null, right => !right.isSet
  | left, .null => !left.isSet
  | .num a, .num b => a.toFloat == b.toFloat
  | .num a, .str s =>
    match numericText? s with
    | some y => a.toFloat == y
    | none => numberText a == s
  | .str s, .num b =>
    match numericText? s with
    | some x => x == b.toFloat
    | none => s == numberText b
  | .str s, .str t =>
    match numericText? s, numericText? t with
    | some x, some y => x == y
    | _, _ => s == t
  | .arr a, .arr b => looseEqList a b
  | .obj ⟨keys, _, row⟩, .obj b => keys.length == b.size && looseEqRow row b
  | _, _ => false
termination_by structural left => left

/-- Items are equal one by one. -/
def looseEqList : List Json → List Json → Bool
  | [], [] => true
  | a :: as, b :: bs => looseEq a b && looseEqList as bs
  | _, _ => false
termination_by structural left => left

/-- Every field is equal to the field of its name in the other object. -/
def looseEqRow {keys : List String} : Row Json keys → Object → Bool
  | .nil, _ => true
  | .cons (k := key) a rest, b =>
    (match b.get? key with
      | some b => looseEq a b
      | none => false) && looseEqRow rest b
termination_by structural left => left

end

/-- Texts that are false as outcome of a condition. -/
def falseWords : List String := ["", "0", "false", "off"]

/-- Texts that are false in logical operations. -/
def negativeWords : List String := falseWords ++ ["no", "null"]

/-- Whether a text is one of some words, blanks around it and its case apart. -/
def isOneOf (words : List String) (s : String) : Bool :=
  Text.lowercase (Text.trimmed s) ∈ words

/-- Whether a value is true as the outcome of a condition. -/
def holds (value : Json) : Bool :=
  match value.number?, value with
  | some x, _ => x != 0
  | none, .str s => !isOneOf falseWords s
  | none, value => value.isSet

/-- Whether a value is true in a logical operation. -/
def isTruthy (value : Json) : Bool :=
  match value.number?, value with
  | none, .str s => !isOneOf negativeWords s
  | _, value => value.holds

end TelemetryAutomation.Json
