import TelemetryAutomation.Text.Blank

/-!
# Trimmed texts

A text is trimmed if no blank stands at either end. Trimming makes every text such a text, and it leaves those
alone that are one already.
-/

namespace TelemetryAutomation.Text

variable {cs : List Char} {c : Char}

/-- No blank stands at either end. -/
structure IsTrimmed (cs : List Char) : Prop where
  first : ∀ c, cs.head? = some c → isBlank c = false
  last : ∀ c, cs.getLast? = some c → isBlank c = false

theorem isBlank_of_head?_dropWhile (h : (cs.dropWhile isBlank).head? = some c) : isBlank c = false := by
  have hhead := List.head?_dropWhile_not isBlank cs
  rwa [h] at hhead

theorem trimEnd_prefix (cs : List Char) : trimEnd cs <+: cs := by
  have hsuffix : cs.reverse.dropWhile isBlank <:+ cs.reverse := List.dropWhile_suffix isBlank
  simpa [trimEnd] using hsuffix.reverse

/-- What is left of a text begins and ends with no blank. -/
theorem isTrimmed_trim (cs : List Char) : IsTrimmed (trim cs) := by
  constructor
  · intro c hfirst
    obtain ⟨rest, hrest⟩ := trimEnd_prefix (trimStart cs)
    have hstart : (trimStart cs).head? = some c := by
      rw [← hrest, List.head?_append, show (trimEnd (trimStart cs)).head? = some c from hfirst,
        Option.some_or]
    exact isBlank_of_head?_dropWhile hstart
  · intro c hlast
    rw [trim, trimEnd, List.getLast?_reverse] at hlast
    exact isBlank_of_head?_dropWhile hlast

theorem dropWhile_isBlank_eq_self (h : ∀ c, cs.head? = some c → isBlank c = false) :
    cs.dropWhile isBlank = cs := by
  cases cs with
  | nil => rfl
  | cons c rest => rw [List.dropWhile_cons, h c rfl, if_neg Bool.false_ne_true]

theorem IsTrimmed.trim_eq (h : IsTrimmed cs) : trim cs = cs := by
  have hend : cs.reverse.dropWhile isBlank = cs.reverse := by
    apply dropWhile_isBlank_eq_self
    intro c hc
    rw [List.head?_reverse] at hc
    exact h.last c hc
  rw [trim, trimStart, dropWhile_isBlank_eq_self h.first, trimEnd, hend, List.reverse_reverse]

theorem isTrimmed_of_forall (h : ∀ c ∈ cs, isBlank c = false) : IsTrimmed cs :=
  ⟨fun c hc => h c (List.mem_of_mem_head? hc), fun c hc => h c (List.mem_of_mem_getLast? hc)⟩

/-- A character that can be seen is no blank. -/
theorem isBlank_of_visible (h : 0x20 < c.toNat ∧ c.toNat < 0x7F) : isBlank c = false := by
  simp only [isBlank, inRanges, blankRanges, List.any_cons, List.any_nil, Bool.or_false,
    Bool.or_eq_false_iff, Bool.and_eq_false_iff, decide_eq_false_iff_not]
  omega

theorem isTrimmed_trimmed (s : String) : IsTrimmed (trimmed s).toList := by
  rw [trimmed, String.toList_ofList]
  exact isTrimmed_trim s.toList

theorem IsTrimmed.trimmed_eq {s : String} (h : IsTrimmed s.toList) : trimmed s = s := by
  rw [trimmed, h.trim_eq, String.ofList_toList]

end TelemetryAutomation.Text
