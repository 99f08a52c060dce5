/-!
# The fewest digits that read back

A double is the nearest of its kind to every real number in a small interval around it. Of the
decimals in that interval the shortest is taken, and of the shortest the nearest to the double.

For each number of digits only two decimals can be meant, the neighbours of the double on the grid
of that many digits: if any point of a grid lies in the interval, so does one of the two.
-/

namespace TelemetryAutomation.Decimal

/-- The absolute value `mantissa * 2 ^ exponent` of a finite double. -/
structure Magnitude where
  mantissa : Nat
  exponent : Int

/-- The bit in front of the 52 stored bits of a mantissa. -/
def hiddenBit : Nat := 0x10000000000000

/-- The absolute value of a double, read off its bits. -/
def Magnitude.ofFloat (x : Float) : Magnitude :=
  let bits := x.toBits.toNat % 0x8000000000000000
  let field : Nat := bits / hiddenBit
  let fraction := bits % hiddenBit
  if field = 0 then ⟨fraction, -1074⟩ else ⟨hiddenBit + fraction, (field : Int) - 1075⟩

/-- Whether the sign bit of a double is set, also on zero. -/
def isNegative (x : Float) : Bool := 0x8000000000000000 ≤ x.toBits.toNat

/-- Which of two equally near decimals is taken. -/
inductive Tie
  | toEven
  | up
deriving DecidableEq, Repr

namespace Magnitude

/-- How far below the value its interval reaches, in quarters of the last binary place: half a
place, and half of that where the lower neighbour has a smaller exponent. -/
def gapBelow (v : Magnitude) : Nat :=
  if v.mantissa = hiddenBit ∧ -1074 < v.exponent then 1 else 2

/-- The exponent of the first decimal digit of a value that is not zero. -/
def leadingExponent (v : Magnitude) : Int :=
  if 0 ≤ v.exponent then
    (Nat.toDigits 10 (v.mantissa * Nat.pow 2 v.exponent.toNat)).length - 1
  else
    let shift := v.exponent.natAbs * 31 / 100 + 1
    (Nat.toDigits 10 (v.mantissa * Nat.pow 10 shift / Nat.pow 2 v.exponent.natAbs)).length - 1 - shift

/-- The multiple of `10 ^ place` that stands for the value, if a multiple reads back as it. All
quantities are compared as integers, in quarters of the last binary place times `unit`. -/
def onGrid? (v : Magnitude) (tie : Tie) (place : Int) : Option Nat :=
  let step := Nat.pow 10 place.toNat * Nat.pow 2 (2 - v.exponent).toNat
  let unit := Nat.pow 2 (v.exponent - 2).toNat * Nat.pow 10 (-place).toNat
  let value := 4 * v.mantissa * unit
  let low := value - v.gapBelow * unit
  let high := value + 2 * unit
  let readsBack (n : Nat) : Bool :=
    if v.mantissa % 2 = 0 then low ≤ n * step && n * step ≤ high
    else low < n * step && n * step < high
  let below := value / step
  let above := below + 1
  let toBelow := value - below * step
  let toAbove := above * step - value
  let belowIsNearer := toBelow < toAbove ||
    (toBelow = toAbove && tie = .toEven && below % 2 = 0)
  match readsBack below, readsBack above with
  | true, true => some (if belowIsNearer then below else above)
  | true, false => some below
  | false, true => some above
  | false, false => none

/-- Moves trailing zeros of the digits into the exponent; at most `fuel` of them. -/
def withoutZeros : (fuel : Nat) → Nat → Int → Nat × Int
  | 0, n, place => (n, place)
  | fuel + 1, n, place =>
    if n % 10 = 0 ∧ n ≠ 0 then withoutZeros fuel (n / 10) (place + 1) else (n, place)

/-- The digits, as a number, and the exponent of the last of them. -/
def shortest (v : Magnitude) (tie : Tie) : Nat × Int :=
  let first := v.leadingExponent
  let found := (List.range 17).findSome? fun (n : Nat) =>
    (v.onGrid? tie (first - n)).map fun digits => (digits, first - n)
  match found with
  | some (digits, place) => withoutZeros 18 digits place
  | none => (0, 0)

end Magnitude

end TelemetryAutomation.Decimal
