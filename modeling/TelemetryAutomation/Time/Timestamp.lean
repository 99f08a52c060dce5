import TelemetryAutomation.Json.Record
import TelemetryAutomation.Text.Blank
import TelemetryAutomation.Text.Integer
import TelemetryAutomation.Time.Calendar

/-!
# Points in time

A timestamp counts the seconds since the start of 1970 in universal time. Its nanoseconds reach one
second further than usual while a leap second is inserted.

Timestamps are read from and written to the form of RFC 3339. The reader is generous: it admits
single digits, blanks between the parts, a blank in place of the `T`, signed years and any offset
below a day. What is written is in universal time and has 0, 3, 6 or 9 digits after the second.
-/

namespace TelemetryAutomation

/-- The nanoseconds of a second. -/
abbrev nanosPerSecond : Nat := 1000000000

/-- The nanoseconds of a millisecond. -/
abbrev nanosPerMilli : Nat := 1000000

/-- The nanoseconds of a microsecond. -/
abbrev nanosPerMicro : Nat := 1000

/-- A point in time. -/
structure Timestamp where
  seconds : Int
  nanos : Nat
deriving DecidableEq, Repr

namespace Timestamp

/-- The time of some nanoseconds since the start of 1970. -/
def ofNanos (n : Nat) : Timestamp := ⟨n / nanosPerSecond, n % nanosPerSecond⟩

/-- The time some milliseconds before another. -/
def backMillis (t : Timestamp) (millis : Nat) : Timestamp :=
  let total := t.seconds * nanosPerSecond + t.nanos - millis * nanosPerMilli
  ⟨total / nanosPerSecond, (total % nanosPerSecond).toNat⟩

/-! ### Reading -/

/-- Reads a number of one to `width` digits after optional blanks. -/
def readNumber (width : Nat) (cs : List Char) : Option (Nat × List Char) :=
  let cs := Text.trimStart cs
  let digits := (cs.take width).takeWhile Text.isDigit
  if digits.isEmpty then none
  else some (Nat.ofDigitChars 10 digits 0, cs.drop digits.length)

/-- Reads a year: up to four digits, or any number of them after a sign. -/
def readYear (cs : List Char) : Option (Int × List Char) :=
  let signed (sign : Int) (rest : List Char) : Option (Int × List Char) :=
    let digits := rest.takeWhile Text.isDigit
    if digits.isEmpty then none
    else some (sign * Nat.ofDigitChars 10 digits 0, rest.drop digits.length)
  match Text.trimStart cs with
  | '-' :: rest => signed (-1) rest
  | '+' :: rest => signed 1 rest
  | cs => (readNumber 4 cs).map fun (year, rest) => ((year : Int), rest)

/-- Reads one of some marks. -/
def readMark (marks : List Char) (cs : List Char) : Option (List Char) :=
  match cs with
  | c :: rest => if c ∈ marks then some rest else none
  | [] => none

/-- Reads the digits after the second; those beyond the ninth are passed over. -/
def readFraction : List Char → Option (Nat × List Char)
  | '.' :: rest =>
    let digits := (rest.take 9).takeWhile Text.isDigit
    if digits.isEmpty then none
    else
      let nanos := Nat.ofDigitChars 10 digits 0 * Nat.pow 10 (9 - digits.length)
      some (nanos, rest.dropWhile Text.isDigit)
  | cs => some (0, cs)

/-- Reads two digits. -/
def readPair : List Char → Option (Nat × List Char)
  | a :: b :: rest => do
    let tens ← Text.digit? a
    let units ← Text.digit? b
    return (tens * 10 + units, rest)
  | _ => none

/-- Reads the offset from universal time in seconds. -/
def readOffset (cs : List Char) : Option (Int × List Char) :=
  let signed (sign : Int) (rest : List Char) : Option (Int × List Char) := do
    let (hours, rest) ← readPair rest
    let (minutes, rest) ← readPair (rest.dropWhile fun c => c = ':' || Text.isBlank c)
    if hours < 24 ∧ minutes < 60 then
      return (sign * (hours * 3600 + minutes * 60 : Nat), rest)
    else none
  match cs with
  | '+' :: rest => signed 1 rest
  | '-' :: rest => signed (-1) rest
  | '−' :: rest => signed (-1) rest
  | c :: rest =>
    if c = 'Z' ∨ c = 'z' then some (0, rest)
    else if (cs.take 3).map Char.toUpper = ['U', 'T', 'C'] then some (0, cs.drop 3)
    else none
  | [] => none

/-- The years that dates reach. -/
def isYear (year : Int) : Bool := -262143 ≤ year && year ≤ 262142

/-- Reads a timestamp. -/
def read? (text : String) : Option Timestamp := do
  let (year, cs) ← readYear text.toList
  let cs ← readMark ['-'] (Text.trimStart cs)
  let (month, cs) ← readNumber 2 cs
  let cs ← readMark ['-'] (Text.trimStart cs)
  let (day, cs) ← readNumber 2 cs
  let cs ← readMark ['T', 't', ' '] cs
  let (hour, cs) ← readNumber 2 cs
  let cs ← readMark [':'] (Text.trimStart cs)
  let (minute, cs) ← readNumber 2 cs
  let cs ← readMark [':'] (Text.trimStart cs)
  let (second, cs) ← readNumber 2 cs
  let (nanos, cs) ← readFraction cs
  let (offset, cs) ← readOffset (Text.trimStart cs)
  let date : Date := ⟨year, month, day⟩
  guard (date.isValid && isYear year && hour < 24 && minute < 60 && second ≤ 60)
  guard (Text.trimStart cs).isEmpty
  let isLeap := second = 60
  let second := if isLeap then 59 else second
  let seconds := date.toDays * 86400 + (hour * 3600 + minute * 60 + second : Nat) - offset
  guard (isYear (Date.ofDays (seconds / 86400)).year)
  return ⟨seconds, if isLeap then nanos + nanosPerSecond else nanos⟩

/-! ### Writing -/

/-- A number with leading zeros. -/
def padded (width n : Nat) : String :=
  let digits := Text.decimalDigits n
  String.ofList (List.replicate (width - digits.length) '0' ++ digits)

/-- A year: four digits, or a sign and at least four. -/
def yearText (year : Int) : String :=
  if 0 ≤ year ∧ year ≤ 9999 then padded 4 year.toNat
  else (if year < 0 then "-" else "+") ++ padded 4 year.natAbs

/-- Date and time up to the second. -/
def dateTimeText (t : Timestamp) : String :=
  let date := Date.ofDays (t.seconds / 86400)
  let second := (t.seconds % 86400).toNat
  let lastSecond := second % 60 + (if nanosPerSecond ≤ t.nanos then 1 else 0)
  yearText date.year ++ "-" ++ padded 2 date.month ++ "-" ++ padded 2 date.day ++ "T" ++
    padded 2 (second / 3600) ++ ":" ++ padded 2 (second / 60 % 60) ++ ":" ++ padded 2 lastSecond

/-- The digits after the second, in groups of three. -/
def fractionText (nanos : Nat) : String :=
  let nanos := nanos % nanosPerSecond
  if nanos = 0 then ""
  else if nanos % nanosPerMilli = 0 then "." ++ padded 3 (nanos / nanosPerMilli)
  else if nanos % nanosPerMicro = 0 then "." ++ padded 6 (nanos / nanosPerMicro)
  else "." ++ padded 9 nanos

/-- A timestamp in universal time. -/
def text (t : Timestamp) : String := t.dateTimeText ++ fractionText t.nanos ++ "Z"

/-- A timestamp to the second, with the offset spelled out. -/
def secondsText (t : Timestamp) : String := t.dateTimeText ++ "+00:00"

end Timestamp

instance : ToJson Timestamp := ⟨fun t => .str t.text⟩

instance : FromDocument Timestamp where
  read
    | .str s =>
      match Timestamp.read? s with
      | some t => .ok t
      | none => .error (.outside (.str s) "a point in time")
    | found => .error (.mismatch found "a point in time")

end TelemetryAutomation
