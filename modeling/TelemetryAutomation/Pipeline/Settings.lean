import TelemetryAutomation.Alert.Cooldown
import TelemetryAutomation.Run.Services

/-!
# Settings of the pipeline
-/

namespace TelemetryAutomation

/-- Settings of the pipeline. -/
structure Settings where
  /-- Whether telemetry is handled at all. -/
  enabled : Bool
  /-- What is logged. -/
  logFilter : String
  /-- How deep below a trigger nodes are executed. -/
  maxDepth : Nat
  /-- The cooldown of alerts that set none, in minutes. -/
  cooldownMinutes : UInt32
deriving DecidableEq

namespace Settings

/-- The settings where nothing else is said. -/
def standard : Settings := ⟨true, "info", defaultMaxDepth, 30⟩

/-- The cooldown of alerts that set none. -/
def defaultCooldown (settings : Settings) : Cooldown := .minutes settings.cooldownMinutes

/-- Reads the settings of alerts: the minutes of the cooldown. -/
def alertReader : RecordReader UInt32 :=
  .defaulted "default_cooldown_minutes" standard.cooldownMinutes

end Settings

instance : FromDocument Settings where
  read := RecordReader.read do
    let enabled ← .defaulted "enabled" Settings.standard.enabled
    let logFilter ← .defaulted "log_filter" Settings.standard.logFilter
    let maxDepth ← .defaulted "max_traversal_depth" Settings.standard.maxDepth
    let cooldownMinutes ← match ← RecordReader.next? "alert" with
      | some alert => liftM (Settings.alertReader.read alert)
      | none => pure Settings.standard.cooldownMinutes
    return { enabled, logFilter, maxDepth, cooldownMinutes }

end TelemetryAutomation
