import TelemetryAutomation.Text.Pieces

/-!
# Pieces between separators

A text that is joined from pieces without the separator is cut into these pieces again. So what is joined in
this way can be told apart: `joined_inj`.
-/

namespace TelemetryAutomation.Text

variable {separator : Char} {cs before rest : List Char} {parts others : List (List Char)}

theorem pieces_of_not_mem (h : separator ∉ cs) : pieces separator cs = [cs] := by
  induction cs with
  | nil => rfl
  | cons c rest ih =>
    obtain ⟨hc, hrest⟩ := not_or.mp (mt List.mem_cons.mpr h)
    rw [pieces, if_neg (Ne.symm hc), ih hrest]

/-- A piece ends at the first separator. -/
theorem pieces_append (h : separator ∉ before) (rest : List Char) :
    pieces separator (before ++ separator :: rest) = before :: pieces separator rest := by
  induction before with
  | nil => simp [pieces]
  | cons c before ih =>
    obtain ⟨hc, hbefore⟩ := not_or.mp (mt List.mem_cons.mpr h)
    rw [List.cons_append, pieces, if_neg (Ne.symm hc), ih hbefore]

/-- No piece contains the separator. -/
theorem not_mem_of_mem_pieces {piece : List Char} (h : piece ∈ pieces separator cs) :
    separator ∉ piece := by
  induction cs generalizing piece with
  | nil => simp_all [pieces]
  | cons c rest ih =>
    rw [pieces] at h
    by_cases hc : c = separator
    · rw [if_pos hc] at h
      rcases List.mem_cons.mp h with rfl | hmem
      · simp
      · exact ih hmem
    · rw [if_neg hc] at h
      cases hpieces : pieces separator rest with
      | nil => exact absurd hpieces (pieces_ne_nil separator rest)
      | cons first more =>
        rw [hpieces] at h ih
        rcases List.mem_cons.mp h with rfl | hmem
        · have hfirst := ih List.mem_cons_self
          simp [hfirst, Ne.symm hc]
        · exact ih (List.mem_cons_of_mem _ hmem)

theorem cut_eq_none_iff : cut separator cs = none ↔ separator ∉ cs := by
  induction cs with
  | nil => simp [cut]
  | cons c rest ih =>
    rw [cut, List.mem_cons, not_or]
    by_cases hc : c = separator
    · simp [hc]
    · simp [hc, ih, Ne.symm hc]

/-- What stands before the first separator does not contain it. -/
theorem cut_eq_some_iff :
    cut separator cs = some (before, rest) ↔ cs = before ++ separator :: rest ∧ separator ∉ before := by
  induction cs generalizing before with
  | nil => simp [cut]
  | cons c cs ih =>
    rw [cut]
    by_cases hc : c = separator
    · rw [if_pos hc, Option.some.injEq, Prod.mk.injEq, hc]
      constructor
      · rintro ⟨rfl, rfl⟩
        simp
      · rintro ⟨heq, hbefore⟩
        cases before with
        | nil => simpa using heq
        | cons first more => simp_all
    · rw [if_neg hc, Option.map_eq_some_iff]
      constructor
      · rintro ⟨⟨more, rest'⟩, hcut, heq⟩
        obtain ⟨rfl, rfl⟩ := Prod.mk.inj heq
        obtain ⟨rfl, hmore⟩ := ih.mp hcut
        simp [hmore, Ne.symm hc]
      · rintro ⟨heq, hbefore⟩
        cases before with
        | nil => simp_all
        | cons first more =>
          obtain ⟨rfl, rfl⟩ := List.cons.inj heq
          obtain ⟨-, hmore⟩ := not_or.mp (mt List.mem_cons.mpr hbefore)
          exact ⟨(more, rest), ih.mpr ⟨rfl, hmore⟩, rfl⟩

/-- What is joined is made of the pieces and the separator. -/
theorem mem_joined {c : Char} (h : c ∈ joined separator parts) :
    c = separator ∨ ∃ part ∈ parts, c ∈ part := by
  fun_induction joined separator parts with
  | case1 => simp at h
  | case2 part => exact .inr ⟨part, List.mem_singleton_self _, h⟩
  | case3 part more _ ih =>
    rcases List.mem_append.mp h with hpart | hmore
    · exact .inr ⟨part, List.mem_cons_self, hpart⟩
    · rcases List.mem_cons.mp hmore with heq | hmore
      · exact .inl heq
      · obtain heq | ⟨part, hpart, hc⟩ := ih hmore
        · exact .inl heq
        · exact .inr ⟨part, List.mem_cons_of_mem _ hpart, hc⟩

theorem mem_joined_of_mem {c : Char} {part : List Char} (hpart : part ∈ parts) (hc : c ∈ part) :
    c ∈ joined separator parts := by
  fun_induction joined separator parts with
  | case1 => simp at hpart
  | case2 single =>
    obtain rfl := List.mem_singleton.mp hpart
    exact hc
  | case3 first more _ ih =>
    rcases List.mem_cons.mp hpart with rfl | hmore
    · exact List.mem_append_left _ hc
    · exact List.mem_append_right _ (List.mem_cons_of_mem _ (ih hmore))

/-- With a single character in between, texts are put together in the same way. -/
theorem intercalate_eq_joined (separator : Char) (parts : List (List Char)) :
    [separator].intercalate parts = joined separator parts := by
  fun_induction joined separator parts with
  | case1 => rfl
  | case2 part => exact List.intercalate_singleton
  | case3 part more hmore ih =>
    rw [List.intercalate_cons_of_ne_nil hmore, ih]
    simp

/-- Joining loses nothing if no piece contains the separator. -/
theorem pieces_joined (hne : parts ≠ []) (h : ∀ part ∈ parts, separator ∉ part) :
    pieces separator (joined separator parts) = parts := by
  fun_induction joined separator parts with
  | case1 => contradiction
  | case2 part => exact pieces_of_not_mem (h part List.mem_cons_self)
  | case3 part more hmore ih =>
    obtain ⟨hpart, hrest⟩ := List.forall_mem_cons.mp h
    rw [pieces_append hpart, ih hmore hrest]

theorem joined_inj (hne : parts ≠ []) (hne' : others ≠ [])
    (h : ∀ part ∈ parts, separator ∉ part) (h' : ∀ part ∈ others, separator ∉ part) :
    joined separator parts = joined separator others ↔ parts = others := by
  refine ⟨fun heq => ?_, congrArg _⟩
  rw [← pieces_joined hne h, heq, pieces_joined hne' h']

end TelemetryAutomation.Text
