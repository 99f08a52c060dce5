import TelemetryAutomation.Catalog.Parameter
import TelemetryAutomation.Text.Lowercase

/-!
# Values of environment variables

A value is a boolean, an integer, a decimal or a text, the first of these that it can be read as. It
is converted to the type of the setting that asks for it.
-/

namespace TelemetryAutomation.Environment

/-- The value of a variable. -/
inductive Value
  | bool (b : Bool)
  | int (n : Int64)
  | decimal (x : Float)
  | text (s : String)

namespace Value

/-- Reads a value as the first type that fits. -/
def read (s : String) : Value :=
  let word := Text.lowercase s
  if word = "true" then .bool true
  else if word = "false" then .bool false
  else match Text.readInt64 s.toList, Decimal.read? s.toList with
    | .ok n, _ => .int n
    | .error _, some x => .decimal x
    | .error _, none => .text s

/-- Texts that count as true. -/
def yesWords : List String := ["true", "on", "yes"]

/-- Texts that count as false. -/
def noWords : List String := ["false", "off", "no"]

/-- A value as a boolean. -/
def toBool? : Value → Option Bool
  | bool b => some b
  | int n => some (n ≠ 0)
  | decimal x => some (x != 0)
  | text s =>
    let word := Text.lowercase s
    if word ∈ "1" :: yesWords then some true
    else if word ∈ "0" :: noWords then some false
    else none

/-- A value as a natural number below a bound; decimals are rounded. -/
def toNat? (bound : Nat) (value : Value) : Option Nat :=
  let n? : Option Nat := match value with
    | bool b => some b.toNat
    | int n => if 0 ≤ n then some n.toInt.toNat else none
    | decimal x => some x.round.toUInt64.toNat
    | text s =>
      let word := Text.lowercase s
      if word ∈ yesWords then some 1 else if word ∈ noWords then some 0 else none
  n?.filter (· < bound)

/-- A double as a text, also one that is not finite. -/
def decimalText (x : Float) : String :=
  if x.isNaN then "NaN"
  else if x.isInf then (if x < 0 then "-inf" else "inf")
  else Violation.boundLayout.text x

/-- A value as a text. -/
def toText : Value → String
  | bool b => if b then "true" else "false"
  | int n => Text.decimal n.toInt
  | decimal x => decimalText x
  | text s => s

end Value

end TelemetryAutomation.Environment
