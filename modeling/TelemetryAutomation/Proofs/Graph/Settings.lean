import TelemetryAutomation.Graph.Settings

/-!
# Fields of settings

A field of settings is read as what it has to be. It is found exactly if it is there as such.
-/

namespace TelemetryAutomation.Object

variable {settings : Object} {name : String}

theorem text?_eq_some_iff {text : String} :
    settings.text? name = some text ↔ settings.get? name = some (.str text) := by
  rw [text?, Option.bind_eq_some_iff]
  constructor
  · rintro ⟨value, hvalue, htext⟩
    cases value <;> cases htext
    exact hvalue
  · intro h
    exact ⟨_, h, rfl⟩

theorem object?_eq_some_iff {fields : Object} :
    settings.object? name = some fields ↔ settings.get? name = some (.obj fields) := by
  rw [object?, Option.bind_eq_some_iff]
  constructor
  · rintro ⟨value, hvalue, hfields⟩
    cases value <;> cases hfields
    exact hvalue
  · intro h
    exact ⟨_, h, rfl⟩

end TelemetryAutomation.Object
