import TelemetryAutomation.Catalog.Resolution
import TelemetryAutomation.Proofs.Success

/-!
# What a resolved reference says

A reference can be resolved exactly if each of its links holds, so a resolution tells everything about
what it found.
-/

namespace TelemetryAutomation.Catalog

open Success (bind_eq_ok)

variable {catalog : Catalog}

theorem demand_eq_ok {α : Type} {answer : Except CatalogError (Option α)} {test : α → Bool}
    {broken : ResolutionError} {value : α} :
    demand answer test broken = .ok value ↔ answer = .ok (some value) ∧ test value := by
  unfold demand
  split
  · simp
  · simp
  · next found =>
    by_cases htest : test found
    · rw [if_pos htest]
      constructor
      · rintro ⟨⟩
        exact ⟨rfl, htest⟩
      · rintro ⟨⟨⟩, -⟩
        rfl
    · rw [if_neg htest]
      constructor
      · rintro ⟨⟩
      · rintro ⟨⟨⟩, hfound⟩
        exact absurd hfound htest

/-- A device is found if it is of the organization and runs a schema version. -/
theorem resolveDevice_eq_ok {organization : Key .organization} {id : Key .device} {device : Device}
    {schemaVersion : Key .schemaVersion} :
    catalog.resolveDevice organization id = .ok (device, schemaVersion) ↔
      catalog.device id = .ok (some device) ∧ device.organization = organization ∧
        device.schemaVersion = some schemaVersion := by
  simp only [resolveDevice, bind_eq_ok, demand_eq_ok, decide_eq_true_eq]
  constructor
  · rintro ⟨found, ⟨hfound, horganization⟩, h⟩
    split at h
    · next version hversion =>
      cases h
      exact ⟨hfound, horganization, hversion⟩
    · contradiction
  · rintro ⟨hfound, horganization, hversion⟩
    refine ⟨device, ⟨hfound, horganization⟩, ?_⟩
    rw [hversion]
    rfl

theorem resolveTopic_eq_ok {schemaVersion : Key .schemaVersion} {id : Key .topic}
    {direction : Direction} {topic : Topic} :
    catalog.resolveTopic schemaVersion id direction = .ok topic ↔
      catalog.topic id = .ok (some topic) ∧ topic.schemaVersion = schemaVersion ∧
        topic.direction = direction := by
  simp only [resolveTopic, demand_eq_ok, Bool.and_eq_true, decide_eq_true_eq]

theorem resolveParameter_eq_ok {topic : Key .topic} {id : Key .parameter} {parameter : Parameter} :
    catalog.resolveParameter topic id = .ok parameter ↔
      catalog.parameter id = .ok (some parameter) ∧ parameter.topic = topic ∧
        parameter.isActive := by
  simp only [resolveParameter, demand_eq_ok, Bool.and_eq_true, decide_eq_true_eq]

/-- A source is a device of the organization, a publish topic of its schema version and an active
parameter of the topic. -/
theorem resolveTriggerSource_eq_ok {organization : Key .organization} {device : Key .device}
    {topic : Key .topic} {parameter : Key .parameter} {source : TriggerSource} :
    catalog.resolveTriggerSource organization device topic parameter = .ok source ↔
      catalog.device device = .ok (some source.device) ∧
        source.device.organization = organization ∧
        catalog.topic topic = .ok (some source.topic) ∧
        source.device.schemaVersion = some source.topic.schemaVersion ∧
        source.topic.direction = .publish ∧
        catalog.parameter parameter = .ok (some source.parameter) ∧
        source.parameter.topic = source.topic.id ∧ source.parameter.isActive := by
  simp only [resolveTriggerSource, bind_eq_ok, Prod.exists, resolveDevice_eq_ok, resolveTopic_eq_ok,
    resolveParameter_eq_ok]
  constructor
  · rintro ⟨_, _, ⟨hdevice, horganization, hversion⟩, _, ⟨htopic, rfl, hdirection⟩, _,
      ⟨hparameter, hof, hactive⟩, ⟨⟩⟩
    exact ⟨hdevice, horganization, htopic, hversion, hdirection, hparameter, hof, hactive⟩
  · rintro ⟨hdevice, horganization, htopic, hversion, hdirection, hparameter, hof, hactive⟩
    exact ⟨_, _, ⟨hdevice, horganization, hversion⟩, _, ⟨htopic, rfl, hdirection⟩, _,
      ⟨hparameter, hof, hactive⟩, rfl⟩

/-- A target is a device of the organization and a subscribe topic of its schema version. -/
theorem resolveCommandTarget_eq_ok {organization : Key .organization} {device : Key .device}
    {topic : Key .topic} {target : CommandTarget} :
    catalog.resolveCommandTarget organization device topic = .ok target ↔
      catalog.device device = .ok (some target.device) ∧
        target.device.organization = organization ∧
        catalog.topic topic = .ok (some target.topic) ∧
        target.device.schemaVersion = some target.topic.schemaVersion ∧
        target.topic.direction = .subscribe := by
  simp only [resolveCommandTarget, bind_eq_ok, Prod.exists, resolveDevice_eq_ok, resolveTopic_eq_ok]
  constructor
  · rintro ⟨_, _, ⟨hdevice, horganization, hversion⟩, _, ⟨htopic, rfl, hdirection⟩, ⟨⟩⟩
    exact ⟨hdevice, horganization, htopic, hversion, hdirection⟩
  · rintro ⟨hdevice, horganization, htopic, hversion, hdirection⟩
    exact ⟨_, _, ⟨hdevice, horganization, hversion⟩, _, ⟨htopic, rfl, hdirection⟩, rfl⟩

end TelemetryAutomation.Catalog
