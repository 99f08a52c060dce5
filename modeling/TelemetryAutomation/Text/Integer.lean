import TelemetryAutomation.Text.Alphanumeric

/-!
# Decimal integers

An integer is written as an optional sign and one or more ASCII digits; leading zeros are allowed.
Reading goes from left to right and stops at the first fault: a character that is no digit, or the
digit that takes the number out of its bounds.
-/

namespace TelemetryAutomation.Text

/-- The value of an ASCII digit. -/
def digit? (c : Char) : Option Nat := if isDigit c then some (c.toNat - '0'.toNat) else none

/-- Why a text is no integer. -/
inductive IntegerFault
  | empty
  | invalidDigit
  | tooLarge
  | tooSmall
deriving DecidableEq, Repr

/-- The wording of a fault. -/
def IntegerFault.message : IntegerFault → String
  | .empty => "cannot parse integer from empty string"
  | .invalidDigit => "invalid digit found in string"
  | .tooLarge => "number too large to fit in target type"
  | .tooSmall => "number too small to fit in target type"

/-- Reads the digits of a number that is at most `high`, after the value `acc` of those before. -/
def readUp (high : Int) : Int → List Char → Except IntegerFault Int
  | acc, [] => .ok acc
  | acc, c :: rest =>
    match digit? c with
    | none => .error .invalidDigit
    | some d => if acc * 10 + d ≤ high then readUp high (acc * 10 + d) rest else .error .tooLarge

/-- Reads the digits of a negative number that is at least `low`. -/
def readDown (low : Int) : Int → List Char → Except IntegerFault Int
  | acc, [] => .ok acc
  | acc, c :: rest =>
    match digit? c with
    | none => .error .invalidDigit
    | some d => if low ≤ acc * 10 - d then readDown low (acc * 10 - d) rest else .error .tooSmall

/-- Reads an integer between two bounds; where `low` is not negative, so is no readable text. -/
def readInteger (low high : Int) : List Char → Except IntegerFault Int
  | [] => .error .empty
  | ['+'] | ['-'] => .error .invalidDigit
  | '+' :: rest => readUp high 0 rest
  | '-' :: rest => if low < 0 then readDown low 0 rest else .error .invalidDigit
  | cs => readUp high 0 cs

/-- Reads an integer of 64 bits with sign. -/
def readInt64 (cs : List Char) : Except IntegerFault Int64 :=
  (readInteger (-0x8000000000000000) 0x7fffffffffffffff cs).map Int64.ofInt

/-- Whether a text consists of one or more ASCII digits. -/
def isNatural (cs : List Char) : Bool := !cs.isEmpty && cs.all isDigit

/-- The digits of a natural number. -/
def decimalDigits (n : Nat) : List Char := Nat.toDigits 10 n

/-- An integer as text. -/
def decimal (n : Int) : String :=
  String.ofList (if n < 0 then '-' :: decimalDigits n.natAbs else decimalDigits n.natAbs)

end TelemetryAutomation.Text
