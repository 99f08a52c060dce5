import TelemetryAutomation.Pipeline.Environment.Tree
import TelemetryAutomation.Pipeline.Settings

/-!
# Settings from environment variables

The values of the variables are arranged in a tree, and the settings are read from it. Every setting
has a default, which counts where no variable leads to it. A variable that no setting asks for is
passed over. The settings of alerts are a group, which may be given by the names of its fields or as
a sequence of them.
-/

namespace TelemetryAutomation.Environment

/-- A field whose variable has no value of its type. -/
structure EnvironmentError where
  field : String
deriving DecidableEq, Repr

/-- The wording of the error. -/
def EnvironmentError.message (error : EnvironmentError) : String :=
  s!"no valid value for {error.field}"

/-- The value of a field, converted, or its default where no variable leads to it. -/
def fieldValue {α : Type} (field : String) (convert : Value → Option α) (default : α) :
    Option Tree → Except EnvironmentError α
  | none => .ok default
  | some (.leaf value) =>
    match convert value with
    | some result => .ok result
    | none => .error ⟨field⟩
  | some _ => .error ⟨field⟩

/-- The field of a group, which has a name and a position in it. -/
def member (group : String) (name : String) (index : Nat) :
    Option Tree → Except EnvironmentError (Option Tree)
  | none => .ok none
  | some (.fields entries) => .ok (entries.lookup name)
  | some (.items sequence) => .ok ((Tree.items sequence).item? index)
  | some _ => .error ⟨group⟩

/-- The settings that some environment variables give. -/
def settings (environment : List (String × String)) : Except EnvironmentError Settings := do
  let tree := Tree.ofList (environment.filterMap fun (name, value) => Variable.read? name value)
  let standard := Settings.standard
  let enabled ← fieldValue "enabled" Value.toBool? standard.enabled (tree.field? "enabled")
  let logFilter ← fieldValue "log_filter" (some ·.toText) standard.logFilter
    (tree.field? "log_filter")
  let maxDepth ← fieldValue "max_traversal_depth" (·.toNat? UInt64.size) standard.maxDepth
    (tree.field? "max_traversal_depth")
  let minutes ← fieldValue "default_cooldown_minutes" (·.toNat? UInt32.size)
    standard.cooldownMinutes.toNat
    (← member "alert" "default_cooldown_minutes" 0 (tree.field? "alert"))
  return { enabled, logFilter, maxDepth, cooldownMinutes := .ofNat minutes }

end TelemetryAutomation.Environment
