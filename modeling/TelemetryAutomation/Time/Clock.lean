import TelemetryAutomation.Time.Timestamp

/-!
# Clocks

A clock is read again and again and never goes back. How much time passes before each reading is
part of the clock, so that whatever is timed is a function of its input.
-/

namespace TelemetryAutomation

/-- A clock at a time, with the nanoseconds that will pass before each further reading. -/
structure Clock where
  now : Nat
  gaps : Nat → Nat

namespace Clock

/-- A clock that stands still. -/
def still (now : Nat) : Clock := ⟨now, fun _ => 0⟩

/-- Reads the clock. -/
def read (clock : Clock) : Nat × Clock :=
  let now := clock.now + clock.gaps 0
  (now, ⟨now, fun n => clock.gaps (n + 1)⟩)

/-- A clock never goes back. -/
theorem le_read (clock : Clock) : clock.now ≤ clock.read.1 := Nat.le_add_right ..

end Clock

end TelemetryAutomation
