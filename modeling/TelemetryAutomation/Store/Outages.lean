/-!
# Outages

Stores may fail at any call. Which calls fail, and why, is told by a plan that is asked at every call
with the number of calls before it.
-/

namespace TelemetryAutomation

/-- Which calls of a store fail. The plan is asked with the name of the call and the number of calls
before it. -/
structure Outages (call : Type) where
  calls : Nat
  plan : call → Nat → Option String

namespace Outages

variable {call : Type}

/-- No call fails. -/
def none : Outages call := ⟨0, fun _ _ => .none⟩

/-- Every call of some kinds fails with the reason given for it. -/
def always (reason : call → Option String) : Outages call := ⟨0, fun c _ => reason c⟩

/-- Counts a call and tells why it fails, if it does. -/
def next (outages : Outages call) (c : call) : Option String × Outages call :=
  (outages.plan c outages.calls, { outages with calls := outages.calls + 1 })

end Outages

end TelemetryAutomation
