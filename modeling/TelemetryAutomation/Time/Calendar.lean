/-!
# Calendar dates

Dates of the Gregorian calendar, extended to all years, as days before or after 1 January 1970. Years
are counted from 1 March, so that a leap day comes last; 400 years have 146097 days.
-/

namespace TelemetryAutomation

/-- A date by its parts. -/
structure Date where
  year : Int
  month : Nat
  day : Nat
deriving DecidableEq, Repr

namespace Date

/-- Whether a year has a leap day. -/
def isLeapYear (year : Int) : Bool := year % 4 = 0 && (year % 100 ≠ 0 || year % 400 = 0)

/-- The number of days of a month. -/
def daysInMonth (year : Int) (month : Nat) : Nat :=
  match month with
  | 2 => if isLeapYear year then 29 else 28
  | 4 | 6 | 9 | 11 => 30
  | _ => 31

/-- Whether the calendar has the date. -/
def isValid (date : Date) : Bool :=
  1 ≤ date.month && date.month ≤ 12 && 1 ≤ date.day &&
    date.day ≤ daysInMonth date.year date.month

/-- The days from 1 January 1970 to a date. -/
def toDays (date : Date) : Int :=
  let year := if date.month ≤ 2 then date.year - 1 else date.year
  let month : Int := (date.month + 9) % 12
  let era := year / 400
  let yearOfEra := year % 400
  let dayOfYear := (153 * month + 2) / 5 + date.day - 1
  era * 146097 + yearOfEra * 365 + yearOfEra / 4 - yearOfEra / 100 + dayOfYear - 719468

/-- The date some days after 1 January 1970. -/
def ofDays (days : Int) : Date :=
  let days := days + 719468
  let era := days / 146097
  let dayOfEra := days % 146097
  let yearOfEra :=
    (dayOfEra - dayOfEra / 1460 + dayOfEra / 36524 - dayOfEra / 146096) / 365
  let dayOfYear := dayOfEra - (365 * yearOfEra + yearOfEra / 4 - yearOfEra / 100)
  let month := (5 * dayOfYear + 2) / 153
  let day := dayOfYear - (153 * month + 2) / 5 + 1
  let month := if month < 10 then month + 3 else month - 9
  let year := yearOfEra + era * 400
  ⟨if month ≤ 2 then year + 1 else year, month.toNat, day.toNat⟩

example : ofDays 0 = ⟨1970, 1, 1⟩ ∧ toDays ⟨1970, 1, 1⟩ = 0 := by decide
example : ofDays (toDays ⟨2024, 2, 29⟩) = ⟨2024, 2, 29⟩ := by decide
example : ofDays (toDays ⟨-1, 12, 31⟩ + 1) = ⟨0, 1, 1⟩ := by decide

end Date

end TelemetryAutomation
