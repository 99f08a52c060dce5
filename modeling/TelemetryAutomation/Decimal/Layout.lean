import TelemetryAutomation.Decimal.Shortest

/-!
# Decimals as text

The digits of a double are written in plain notation or, where the format asks for it, with an
exponent. A `Layout` holds the choices that a format makes.
-/

namespace TelemetryAutomation.Decimal

/-- How a format writes a finite double. -/
structure Layout where
  /-- Which exponents of the first digit are written in plain notation. -/
  isPlain : Int → Bool
  /-- Whether a whole number in plain notation ends in `.0`. -/
  marksWhole : Bool
  /-- Which of two equally near decimals is taken. -/
  tie : Tie

/-- Digits in plain notation, the last at exponent `place`. -/
def plainText (marksWhole : Bool) (digits : List Char) (place : Int) : List Char :=
  if 0 ≤ place then
    digits ++ List.replicate place.toNat '0' ++ (if marksWhole then ['.', '0'] else [])
  else
    let whole := (digits.length + place).toNat
    if whole = 0 then
      ['0', '.'] ++ List.replicate (place.natAbs - digits.length) '0' ++ digits
    else digits.take whole ++ '.' :: digits.drop whole

/-- Digits with a point after the first and the exponent of the first. -/
def exponentText (digits : List Char) (first : Int) : List Char :=
  digits.take 1 ++ (if digits.length = 1 then [] else '.' :: digits.drop 1) ++
    ['e', if first < 0 then '-' else '+'] ++ Nat.toDigits 10 first.natAbs

/-- A finite double as text. -/
def Layout.text (layout : Layout) (x : Float) : String :=
  let v := Magnitude.ofFloat x
  let (digits, place) := if v.mantissa = 0 then (0, 0) else v.shortest layout.tie
  let digits := Nat.toDigits 10 digits
  let first := place + digits.length - 1
  let body :=
    if layout.isPlain first then plainText layout.marksWhole digits place
    else exponentText digits first
  String.ofList (if isNegative x then '-' :: body else body)

end TelemetryAutomation.Decimal
