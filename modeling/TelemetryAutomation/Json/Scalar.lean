import TelemetryAutomation.Decimal.Reading
import TelemetryAutomation.Json.Basic
import TelemetryAutomation.Text.Blank

/-!
# Numbers in values

Settings and payloads may hold a number as a JSON number or as a text that writes one.
-/

namespace TelemetryAutomation.Json

/-- The finite double that a text writes between blanks. -/
def numericText? (s : String) : Option Float :=
  (Decimal.read? (Text.trim s.toList)).filter Float.isFinite

/-- The number that a value holds, as a number or as text. -/
def number? : Json → Option Float
  | .num n => some n.toFloat
  | .str s => numericText? s
  | _ => none

/-- The positive integer that a value holds, as an integer or as a text of digits alone. -/
def positive? : Json → Option Int64
  | .num n => n.toInt64?.filter (0 < ·)
  | .str s =>
    if Text.isNatural s.toList then (Text.readInt64 s.toList).toOption.filter (0 < ·) else none
  | _ => none

end TelemetryAutomation.Json
