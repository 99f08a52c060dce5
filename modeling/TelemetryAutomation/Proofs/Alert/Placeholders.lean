import TelemetryAutomation.Alert.Template
import TelemetryAutomation.Proofs.Text.Lowercase

/-!
# Placeholders

A placeholder is a path between double braces, with blanks around it or without. `Placeholder` says which
texts are placeholders for a path, and the reader of templates finds exactly these
(`readPlaceholder_eq_some_iff`). Behind its opening braces a placeholder contains no other opening brace, so no
two placeholders of a text overlap.
-/

namespace TelemetryAutomation.Template

/-- What stands behind the opening braces of a placeholder for a path. -/
inductive Body (path : List Char) : List Char → Prop
  | mk {front back : List Char} (hfront : ∀ c ∈ front, Text.isBlank c) (hne : path ≠ [])
      (hpath : ∀ c ∈ path, isPathChar c) (hback : ∀ c ∈ back, Text.isBlank c) :
      Body path (front ++ (path ++ (back ++ ['\x7d', '\x7d'])))

/-- A text that is a placeholder for a path. -/
def Placeholder (path source : List Char) : Prop :=
  ∃ body, Body path body ∧ source = '\x7b' :: '\x7b' :: body

/-! ## Characters -/

theorem isBlank_of_isPathChar {c : Char} (h : isPathChar c) : Text.isBlank c = false := by
  have hsmall : c.toNat < 128 ∧ 32 < c.toNat := by
    simp only [isPathChar, Bool.or_eq_true, decide_eq_true_eq] at h
    rcases h with ((hletter | rfl) | rfl) | rfl
    · refine ⟨Text.lt_of_isPlainAlphanumeric hletter, ?_⟩
      simp only [Text.isPlainAlphanumeric, Text.isDigit, Bool.or_eq_true, Bool.and_eq_true,
        decide_eq_true_eq, Char.le_def, UInt32.le_iff_toNat_le] at hletter
      have hdigits : '0'.val.toNat = 48 := rfl
      have hletters : 'a'.val.toNat = 97 := rfl
      have hcapitals : 'A'.val.toNat = 65 := rfl
      rw [Char.toNat]
      omega
    · decide
    · decide
    · decide
  simp only [Text.isBlank, Text.inRanges, Text.blankRanges, List.any_cons, List.any_nil, Bool.or_false,
    Bool.or_eq_false_iff, Bool.and_eq_false_iff, decide_eq_false_iff_not]
  omega

theorem isPathChar_of_isBlank {c : Char} (h : Text.isBlank c) : isPathChar c = false := by
  rw [Bool.eq_false_iff]
  intro hpath
  rw [isBlank_of_isPathChar hpath] at h
  cases h

/-! ## Bodies -/

variable {path body cs rest : List Char}

/-- A body does not start with another opening brace. -/
theorem Body.head (h : Body path body) : ∃ c tail, body = c :: tail ∧ c ≠ '\x7b' := by
  obtain @⟨front, back, hfront, hne, hpath, -⟩ := h
  cases front with
  | cons c tail =>
    refine ⟨c, _, rfl, ?_⟩
    rintro rfl
    exact absurd (hfront _ List.mem_cons_self) (by decide)
  | nil =>
    obtain ⟨c, tail, rfl⟩ := List.exists_cons_of_ne_nil hne
    refine ⟨c, _, rfl, ?_⟩
    rintro rfl
    exact absurd (hpath _ List.mem_cons_self) (by decide)

theorem Body.brace_not_mem (h : Body path body) : '\x7b' ∉ body := by
  obtain ⟨hfront, -, hpath, hback⟩ := h
  simp only [List.mem_append, List.mem_cons, List.not_mem_nil, not_or]
  exact ⟨fun h => absurd (hfront _ h) (by decide), fun h => absurd (hpath _ h) (by decide),
    fun h => absurd (hback _ h) (by decide), by decide⟩

theorem readPlaceholder_of_body (h : Body path body) (rest : List Char) :
    readPlaceholder (body ++ rest) = some (path, rest) := by
  obtain @⟨front, back, hfront, hne, hpath, hback⟩ := h
  obtain ⟨first, more, rfl⟩ := List.exists_cons_of_ne_nil hne
  have hfirst : Text.isBlank first = false := isBlank_of_isPathChar (hpath first List.mem_cons_self)
  -- the blanks in front end where the path starts
  have hinner : Text.trimStart (front ++ ((first :: more) ++ (back ++ ['\x7d', '\x7d'])) ++ rest) =
      (first :: more) ++ (back ++ '\x7d' :: '\x7d' :: rest) := by
    rw [Text.trimStart, List.append_assoc, List.dropWhile_append_of_pos hfront]
    simp [hfirst]
  -- the path ends where blanks or braces follow
  have hends : (back ++ '\x7d' :: '\x7d' :: rest).takeWhile isPathChar = [] ∧
      (back ++ '\x7d' :: '\x7d' :: rest).dropWhile isPathChar = back ++ '\x7d' :: '\x7d' :: rest := by
    cases back with
    | nil => exact ⟨rfl, rfl⟩
    | cons c tail =>
      have hc : isPathChar c = false := isPathChar_of_isBlank (hback c List.mem_cons_self)
      simp [hc]
  have htake : ((first :: more) ++ (back ++ '\x7d' :: '\x7d' :: rest)).takeWhile isPathChar =
      first :: more := by
    rw [List.takeWhile_append_of_pos hpath, hends.1, List.append_nil]
  have hdrop : ((first :: more) ++ (back ++ '\x7d' :: '\x7d' :: rest)).dropWhile isPathChar =
      back ++ '\x7d' :: '\x7d' :: rest := by
    rw [List.dropWhile_append_of_pos hpath, hends.2]
  have hclosing : Text.trimStart (back ++ '\x7d' :: '\x7d' :: rest) = '\x7d' :: '\x7d' :: rest := by
    rw [Text.trimStart, List.dropWhile_append_of_pos hback]
    rfl
  unfold readPlaceholder
  dsimp only
  rw [hinner, htake, hdrop, hclosing]
  rfl

theorem body_of_readPlaceholder (h : readPlaceholder cs = some (path, rest)) :
    ∃ body, Body path body ∧ cs = body ++ rest := by
  unfold readPlaceholder at h
  dsimp only at h
  split at h
  · cases h
  · next hne =>
    split at h
    · next after hclosing =>
      obtain ⟨rfl, rfl⟩ := Prod.mk.inj (Option.some.inj h)
      have hfront := List.takeWhile_append_dropWhile (p := Text.isBlank) (l := cs)
      have hpath :=
        List.takeWhile_append_dropWhile (p := isPathChar) (l := Text.trimStart cs)
      have hback := List.takeWhile_append_dropWhile (p := Text.isBlank)
        (l := (Text.trimStart cs).dropWhile isPathChar)
      refine ⟨_, @Body.mk _ (cs.takeWhile Text.isBlank)
        (((Text.trimStart cs).dropWhile isPathChar).takeWhile Text.isBlank)
        (List.all_eq_true.mp List.all_takeWhile) (by simpa using hne)
        (List.all_eq_true.mp List.all_takeWhile) (List.all_eq_true.mp List.all_takeWhile), ?_⟩
      rw [Text.trimStart] at hclosing
      rw [hclosing] at hback
      simp only [List.append_assoc, List.cons_append, List.nil_append]
      rw [hback, hpath]
      exact hfront.symm
    · cases h

/-- **Placeholders are read,** and nothing else is. -/
theorem readPlaceholder_eq_some_iff :
    readPlaceholder cs = some (path, rest) ↔ ∃ body, Body path body ∧ cs = body ++ rest := by
  refine ⟨body_of_readPlaceholder, ?_⟩
  rintro ⟨body, hbody, rfl⟩
  exact readPlaceholder_of_body hbody rest

/-- A text starts with at most one placeholder. -/
theorem Placeholder.unique {path' source source' rest' : List Char} (h : Placeholder path source)
    (h' : Placeholder path' source') (heq : source ++ rest = source' ++ rest') :
    path = path' ∧ source = source' ∧ rest = rest' := by
  obtain ⟨body, hbody, rfl⟩ := h
  obtain ⟨body', hbody', rfl⟩ := h'
  have hbodies : body ++ rest = body' ++ rest' := by simpa using heq
  have hread := readPlaceholder_of_body hbody rest
  rw [hbodies, readPlaceholder_of_body hbody' rest', Option.some.injEq, Prod.mk.injEq] at hread
  obtain ⟨rfl, rfl⟩ := hread
  exact ⟨rfl, by rw [List.append_cancel_right hbodies], rfl⟩

/-- No two placeholders overlap: a later one starts behind the end of an earlier one. -/
theorem Placeholder.exists_of_append {path' source source' front back : List Char}
    (h : Placeholder path source) (h' : Placeholder path' source')
    (heq : source ++ rest = front ++ (source' ++ back)) (hfront : front ≠ []) :
    ∃ front', front = source ++ front' := by
  obtain ⟨body, hbody, rfl⟩ := h
  obtain ⟨body', -, rfl⟩ := h'
  rcases List.append_eq_append_iff.mp heq with ⟨front', rfl, -⟩ | ⟨more, hsource, hmore⟩
  · exact ⟨front', rfl⟩
  cases more with
  | nil => exact ⟨[], by simpa using hsource.symm⟩
  | cons c more =>
    -- otherwise the later one starts at a brace inside the earlier one
    obtain ⟨rfl, hinner⟩ := List.cons.inj hmore
    cases front with
    | nil => contradiction
    | cons first front =>
      obtain ⟨-, hfirst⟩ := List.cons.inj hsource
      cases front with
      | nil =>
        obtain ⟨-, rfl⟩ := List.cons.inj hfirst
        obtain ⟨c, tail, rfl, hc⟩ := hbody.head
        exact absurd (List.cons.inj hinner).1.symm hc
      | cons second front =>
        obtain ⟨-, rfl⟩ := List.cons.inj hfirst
        exact absurd (by simp) hbody.brace_not_mem

end TelemetryAutomation.Template
