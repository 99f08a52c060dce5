import Mathlib.Data.List.Induction
import Mathlib.Data.List.Nodup

/-!
# Lists without repetitions

Of the items of a list that are equal, the first one is kept. So a list is gone through item by item: an item
that is there already adds nothing, and any other one is put at the end.
-/

namespace TelemetryAutomation

variable {α : Type} [BEq α] [LawfulBEq α] {items : List α} {item : α}

theorem eraseDups_concat_of_mem (h : item ∈ items) : (items ++ [item]).eraseDups = items.eraseDups := by
  simp [List.eraseDups_append, List.removeAll, h]

theorem eraseDups_concat_of_not_mem (h : item ∉ items) :
    (items ++ [item]).eraseDups = items.eraseDups ++ [item] := by
  simp [List.eraseDups_append, List.removeAll, h, List.eraseDups_cons]

theorem nodup_eraseDups (items : List α) : items.eraseDups.Nodup := by
  induction items using List.reverseRecOn with
  | nil => exact .nil
  | append_singleton items item ih =>
    by_cases hmem : item ∈ items
    · rwa [eraseDups_concat_of_mem hmem]
    · rw [eraseDups_concat_of_not_mem hmem, ← List.concat_eq_append, List.nodup_concat,
        List.mem_eraseDups]
      exact ⟨hmem, ih⟩

/-- Where nothing is repeated, everything is kept. -/
theorem eraseDups_eq_self (h : items.Nodup) : items.eraseDups = items := by
  induction items using List.reverseRecOn with
  | nil => rfl
  | append_singleton items item ih =>
    rw [← List.concat_eq_append, List.nodup_concat] at h
    rw [eraseDups_concat_of_not_mem h.1, ih h.2]

end TelemetryAutomation
