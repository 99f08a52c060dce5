import TelemetryAutomation.Text.Integer

/-!
# Reading decimals

A decimal text is read as the nearest double. Besides digits with an optional point and exponent the
general form knows the words for infinity and for no number at all.
-/

namespace TelemetryAutomation.Decimal

open TelemetryAutomation.Text (isDigit)

/-- The double nearest to `digits * 10 ^ place`. Beyond the bounds that are asked first every value
is infinite or zero. -/
def nearest (digits : Nat) (place : Int) : Float :=
  let size := (Nat.toDigits 10 digits).length
  if digits = 0 then 0
  else if 310 < size + place then 1 / 0
  else if size + place < -330 then 0
  else Float.ofScientific digits (place < 0) place.natAbs

/-- The parts of a decimal without its sign: the digits before and after the point and the
exponent. -/
structure Parts where
  whole : List Char
  fraction : List Char
  exponent : Int

/-- The nearest double. -/
def Parts.toFloat (parts : Parts) : Float :=
  nearest (Nat.ofDigitChars 10 (parts.whole ++ parts.fraction) 0)
    (parts.exponent - parts.fraction.length)

/-- Reads an exponent: nothing, or `e` and an integer of any size. -/
def exponent? : List Char → Option Int
  | [] => some 0
  | c :: rest =>
    if c = 'e' ∨ c = 'E' then
      match rest with
      | '+' :: digits => natural? digits
      | '-' :: digits => (natural? digits).map (- ·)
      | digits => natural? digits
    else none
where
  /-- The value of one or more digits. -/
  natural? (digits : List Char) : Option Int :=
    if Text.isNatural digits then some (Nat.ofDigitChars 10 digits 0) else none

/-- Splits a decimal without sign into its parts; one side of the point may be empty. -/
def parts? (cs : List Char) : Option Parts :=
  let whole := cs.takeWhile isDigit
  let (fraction, rest) := match cs.dropWhile isDigit with
    | '.' :: rest => (rest.takeWhile isDigit, rest.dropWhile isDigit)
    | rest => ([], rest)
  if whole.isEmpty && fraction.isEmpty then none
  else (exponent? rest).map (⟨whole, fraction, ·⟩)

/-- Reads a decimal without sign, or a word for a number that is not finite. -/
def unsigned? (cs : List Char) : Option Float :=
  let word := cs.map Char.toLower
  if word = "inf".toList ∨ word = "infinity".toList then some (1 / 0)
  else if word = "nan".toList then some (0 / 0)
  else (parts? cs).map Parts.toFloat

/-- Reads a decimal with an optional sign. -/
def read? : List Char → Option Float
  | '-' :: rest => (unsigned? rest).map (- ·)
  | '+' :: rest => unsigned? rest
  | cs => unsigned? cs

end TelemetryAutomation.Decimal
