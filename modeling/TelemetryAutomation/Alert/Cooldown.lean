import TelemetryAutomation.Json.Record
import TelemetryAutomation.Json.Scalar

/-!
# Cooldowns

After an alert was sent, it stays silent for a while. A `CooldownStore` holds the keys that are
claimed and the time at which each claim ends; a claim that has ended no longer counts.
-/

namespace TelemetryAutomation

/-- The units in which cooldowns are given. -/
inductive CooldownUnit
  | minute
  | hour
  | day
deriving DecidableEq, Repr

/-- How long an alert stays silent. -/
structure Cooldown where
  value : UInt32
  unit : CooldownUnit
deriving DecidableEq

namespace CooldownUnit

/-- All units. -/
def all : List CooldownUnit := [minute, hour, day]

/-- The written name. -/
def name : CooldownUnit → String
  | minute => "minute"
  | hour => "hour"
  | day => "day"

/-- The length of a unit in seconds. -/
def seconds : CooldownUnit → Nat
  | minute => 60
  | hour => 3600
  | day => 86400

/-- The units under their names. -/
def named : List (String × CooldownUnit) := all.map fun unit => (unit.name, unit)

end CooldownUnit

instance : ToJson CooldownUnit := ⟨fun unit => .str unit.name⟩
instance : FromDocument CooldownUnit := ⟨FromDocument.constant CooldownUnit.named⟩

instance : ToJson Cooldown where
  toJson c := .object [("value", toJson c.value), ("unit", toJson c.unit)]

instance : FromDocument Cooldown where
  read := RecordReader.read do
    return { value := ← .required "value", unit := ← .required "unit" }

namespace Cooldown

/-- A number of minutes. -/
def minutes (n : UInt32) : Cooldown := ⟨n, .minute⟩

/-- The cooldown where nothing else is said. -/
def standard : Cooldown := minutes 30

/-- The length in seconds. -/
def seconds (cooldown : Cooldown) : Nat := cooldown.value.toNat * cooldown.unit.seconds

/-- Reads a cooldown from settings: a positive amount of 32 bits and the name of a unit. -/
def ofSettings? (settings : Option Json) : Option Cooldown := do
  let fields ← (← settings).obj?
  let amount ← (← fields.get? "value").positive?
  guard (amount.toInt < UInt32.size)
  let unit ← CooldownUnit.named.lookup (← (← fields.get? "unit").str?)
  return ⟨.ofNat amount.toInt.toNat, unit⟩

end Cooldown

/-- The claimed keys, each with the time in nanoseconds at which its claim ends. -/
structure CooldownStore where
  claims : SortedMap String Nat

namespace CooldownStore

/-- A store without claims. -/
def empty : CooldownStore := ⟨∅⟩

/-- Claims a key for some nanoseconds from now on. Fails if the key is claimed already. -/
def acquire (store : CooldownStore) (key : String) (nanos now : Nat) : Bool × CooldownStore :=
  let live := store.claims.filter fun _ ends => now < ends
  if live.contains key then (false, ⟨live⟩) else (true, ⟨live.insert key (now + nanos)⟩)

/-- Gives a claim up before it ends. -/
def release (store : CooldownStore) (key : String) : CooldownStore := ⟨store.claims.erase key⟩

end CooldownStore

end TelemetryAutomation
