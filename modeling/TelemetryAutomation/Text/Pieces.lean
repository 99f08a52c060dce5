/-!
# Cutting a text at a character

`pieces` cuts at every occurrence of a separator, `cut` at the first one only. Joining the pieces
again with the separator gives the text back.
-/

namespace TelemetryAutomation.Text

/-- The parts of a text between the occurrences of a separator; a text without one is one piece. -/
def pieces (separator : Char) : List Char → List (List Char)
  | [] => [[]]
  | c :: rest =>
    if c = separator then [] :: pieces separator rest
    else match pieces separator rest with
      | piece :: more => (c :: piece) :: more
      | [] => [[c]]

/-- The parts before and after the first separator, if there is one. -/
def cut (separator : Char) : List Char → Option (List Char × List Char)
  | [] => none
  | c :: rest =>
    if c = separator then some ([], rest)
    else (cut separator rest).map fun parts => (c :: parts.1, parts.2)

/-- Joins pieces with a separator between them. -/
def joined (separator : Char) : List (List Char) → List Char
  | [] => []
  | [piece] => piece
  | piece :: more => piece ++ separator :: joined separator more

/-- What follows a given beginning of a text. -/
def after? (start cs : List Char) : Option (List Char) := start.isPrefixOf? cs

theorem pieces_ne_nil (separator : Char) (cs : List Char) : pieces separator cs ≠ [] := by
  cases cs with
  | nil => simp [pieces]
  | cons c rest =>
    rw [pieces]
    split
    · simp
    · split <;> simp

/-- Cutting everywhere loses nothing. -/
@[simp] theorem joined_pieces (separator : Char) (cs : List Char) :
    joined separator (pieces separator cs) = cs := by
  induction cs with
  | nil => rfl
  | cons c rest ih =>
    rw [pieces]
    split
    · next h =>
      cases hp : pieces separator rest with
      | nil => exact absurd hp (pieces_ne_nil separator rest)
      | cons piece more => simp [joined, ← hp, ih, h]
    · split
      · next piece more hp =>
        rw [hp] at ih
        cases more <;> simp_all [joined]
      · next hp => exact absurd hp (pieces_ne_nil separator rest)

/-- Cutting once loses nothing. -/
theorem eq_of_cut {separator : Char} {cs before rest : List Char}
    (h : cut separator cs = some (before, rest)) : cs = before ++ separator :: rest := by
  induction cs generalizing before with
  | nil => simp [cut] at h
  | cons c cs ih =>
    rw [cut] at h
    split at h
    · next hc => simp_all
    · obtain ⟨parts, hp, he⟩ := Option.map_eq_some_iff.mp h
      obtain ⟨before', rest'⟩ := parts
      simp only [Prod.mk.injEq] at he
      rw [← he.1, ih (he.2 ▸ hp)]
      rfl

end TelemetryAutomation.Text
