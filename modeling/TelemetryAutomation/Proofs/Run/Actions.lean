import Mathlib.Data.List.Forall2
import TelemetryAutomation.Run.Services

/-!
# What actions yield

`Yields` says that the result of an action has a property in every world. What the action does to the
world does not matter for it, so it is known of an action if it is known of its parts.
-/

namespace TelemetryAutomation.Action

variable {σ α β : Type}

theorem bind_apply (act : Action σ α) (rest : α → Action σ β) (world : World σ) :
    (act >>= rest) world = rest (act world).1 (act world).2 := rfl

theorem map_apply (f : α → β) (act : Action σ α) (world : World σ) :
    (f <$> act) world = (f (act world).1, (act world).2) := rfl

/-- The result has a property, whatever the world. -/
def Yields (act : Action σ α) (property : α → Prop) : Prop := ∀ world, property (act world).1

theorem Yields.mono {act : Action σ α} {property other : α → Prop} (h : act.Yields property)
    (himp : ∀ result, property result → other result) : act.Yields other :=
  fun world => himp _ (h world)

theorem Yields.pure {property : α → Prop} {result : α} (h : property result) :
    Yields (σ := σ) (Pure.pure result) property :=
  fun _ => h

theorem Yields.bind {act : Action σ α} {rest : α → Action σ β} {property : α → Prop}
    {other : β → Prop} (h : act.Yields property)
    (hrest : ∀ result, property result → (rest result).Yields other) :
    Yields (act >>= rest) other := by
  intro world
  rw [bind_apply]
  exact hrest _ (h world) _

theorem Yields.map {act : Action σ α} {f : α → β} {property : β → Prop}
    (h : act.Yields fun result => property (f result)) : Yields (f <$> act) property := by
  intro world
  rw [map_apply]
  exact h world

/-- Actions on the items of a list, one after the other: every item has its own result. -/
theorem Yields.mapM {items : List α} {act : α → Action σ β} {property : α → β → Prop}
    (h : ∀ item ∈ items, (act item).Yields (property item)) :
    Yields (items.mapM act) (List.Forall₂ property items) := by
  induction items with
  | nil => exact .pure .nil
  | cons item rest ih =>
    obtain ⟨hitem, hrest⟩ := List.forall_mem_cons.mp h
    rw [List.mapM_cons]
    refine .bind hitem fun first hfirst => ?_
    refine .bind (ih hrest) fun more hmore => ?_
    exact .pure (.cons hfirst hmore)

/-- The outside world gives a result that it can give. -/
theorem Yields.outside (act : σ → α × σ) :
    (Action.outside act).Yields fun result => ∃ outside, (act outside).1 = result :=
  fun world => ⟨world.outside, rfl⟩

/-- Nothing is known of a result that the world chooses. -/
theorem Yields.any (act : Action σ α) : act.Yields fun _ => True := fun _ => trivial

end TelemetryAutomation.Action
