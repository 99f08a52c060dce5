import TelemetryAutomation.Alert.Slug
import TelemetryAutomation.Proofs.Text.Pieces

/-!
# The words of a slug

A slug keeps of a text its words and nothing else: `slug_eq_iff`. So texts have one slug exactly if they
differ only in the case of letters, in what separates their words, and in characters that are dropped.
-/

namespace TelemetryAutomation.Text

/-- What a slug makes of a character: letters and digits stay, separators are all alike, and everything else
is dropped. -/
def reduced? (c : Char) : Option Char :=
  if isAlphanumeric c then some c else if isSeparator c then some '_' else none

/-- The words of a text in lower case. -/
def wordsOf (cs : List Char) : List (List Char) :=
  (pieces '_' (cs.filterMap reduced?)).filter (!·.isEmpty)

/-- The words of a text. -/
def words (s : String) : List (List Char) := wordsOf (lower (spellAt s.toList))

/-- Words with a separator in front of each. -/
def separated (parts : List (List Char)) : List Char := parts.flatMap ('_' :: ·)

theorem joined_cons (part : List Char) (parts : List (List Char)) :
    joined '_' (part :: parts) = part ++ separated parts := by
  induction parts generalizing part with
  | nil => simp [joined, separated]
  | cons next parts ih =>
    rw [joined, ih next, separated, separated, List.flatMap_cons]
    · rfl
    · simp

/-! ## Characters -/

theorem ne_separator_of_isAlphanumeric {c : Char} (h : isAlphanumeric c) : c ≠ '_' := by
  rintro rfl
  exact absurd h (by decide)

theorem ne_colon_of_isAlphanumeric {c : Char} (h : isAlphanumeric c) : c ≠ ':' := by
  rintro rfl
  exact absurd h (by decide)

theorem isAlphanumeric_of_reduced? {c d : Char} (h : reduced? c = some d) (hd : d ≠ '_') :
    isAlphanumeric d := by
  unfold reduced? at h
  split at h
  · next hc =>
    obtain rfl := Option.some.inj h
    exact hc
  · split at h
    · exact absurd (Option.some.inj h).symm hd
    · contradiction

/-- Words are not empty, and they hold letters and digits alone. -/
theorem of_mem_wordsOf {cs word : List Char} (h : word ∈ wordsOf cs) :
    word ≠ [] ∧ ∀ c ∈ word, isAlphanumeric c := by
  obtain ⟨hpiece, hempty⟩ := List.mem_filter.mp h
  refine ⟨by simpa using hempty, fun c hc => ?_⟩
  have hmem : c ∈ cs.filterMap reduced? := by
    rw [← joined_pieces '_' (cs.filterMap reduced?)]
    exact mem_joined_of_mem hpiece hc
  obtain ⟨d, -, hd⟩ := List.mem_filterMap.mp hmem
  exact isAlphanumeric_of_reduced? hd (ne_of_mem_of_not_mem hc (not_mem_of_mem_pieces hpiece))

/-! ## Slugs -/

/-- What is written after something was written: the rest of a word, unless a separator came before, and the
words behind it. -/
theorem slugFrom_true (pending : Bool) (cs : List Char) :
    ∃ first rest, pieces '_' (cs.filterMap reduced?) = first :: rest ∧
      slugFrom true pending cs =
        if pending then separated ((first :: rest).filter (!·.isEmpty))
        else first ++ separated (rest.filter (!·.isEmpty)) := by
  induction cs generalizing pending with
  | nil => exact ⟨[], [], rfl, by cases pending <;> rfl⟩
  | cons c cs ih =>
    rw [slugFrom]
    by_cases hc : isAlphanumeric c
    · obtain ⟨first, rest, hpieces, hslug⟩ := ih false
      have hreduced : reduced? c = some c := by simp [reduced?, hc]
      refine ⟨c :: first, rest, ?_, ?_⟩
      · rw [List.filterMap_cons_some hreduced, pieces, if_neg (ne_separator_of_isAlphanumeric hc), hpieces]
      · rw [if_pos hc, hslug]
        cases pending <;> simp [separated]
    · rw [if_neg hc]
      obtain ⟨first, rest, hpieces, hslug⟩ := ih (pending || isSeparator c)
      by_cases hsep : isSeparator c
      · have hreduced : reduced? c = some '_' := by simp [reduced?, hc, hsep]
        refine ⟨[], first :: rest, ?_, ?_⟩
        · rw [List.filterMap_cons_some hreduced, pieces, if_pos rfl, hpieces]
        · rw [hslug, hsep, Bool.or_true, if_pos rfl]
          cases pending <;> simp
      · have hreduced : reduced? c = none := by simp [reduced?, hc, hsep]
        refine ⟨first, rest, ?_, ?_⟩
        · rw [List.filterMap_cons_none hreduced, hpieces]
        · rw [hslug, (Bool.not_eq_true _).mp hsep, Bool.or_false]

/-- Before anything is written, separators do not matter. -/
theorem slugFrom_false (pending : Bool) (cs : List Char) :
    slugFrom false pending cs = joined '_' (wordsOf cs) := by
  induction cs generalizing pending with
  | nil => rfl
  | cons c cs ih =>
    rw [slugFrom, wordsOf]
    by_cases hc : isAlphanumeric c
    · obtain ⟨first, rest, hpieces, hslug⟩ := slugFrom_true false cs
      have hreduced : reduced? c = some c := by simp [reduced?, hc]
      rw [List.filterMap_cons_some hreduced, pieces, if_neg (ne_separator_of_isAlphanumeric hc), hpieces,
        List.filter_cons_of_pos rfl, joined_cons, if_pos hc, hslug]
      simp
    · rw [if_neg hc, ih, wordsOf]
      by_cases hsep : isSeparator c
      · have hreduced : reduced? c = some '_' := by simp [reduced?, hc, hsep]
        rw [List.filterMap_cons_some hreduced, pieces, if_pos rfl, List.filter_cons_of_neg (by simp)]
      · have hreduced : reduced? c = none := by simp [reduced?, hc, hsep]
        rw [List.filterMap_cons_none hreduced]

/-- A slug consists of words with `_` between them. -/
theorem toList_slug (s : String) : (slug s).toList = joined '_' (words s) := by
  rw [slug, String.toList_ofList, slugFrom_false, words]

/-- Texts have one slug exactly if they have the same words. -/
theorem slug_eq_iff {s t : String} : slug s = slug t ↔ words s = words t := by
  have hword : ∀ {s : String}, ∀ word ∈ words s, word ≠ [] ∧ '_' ∉ word := by
    intro s word hword
    obtain ⟨hne, hall⟩ := of_mem_wordsOf hword
    exact ⟨hne, fun h => ne_separator_of_isAlphanumeric (hall _ h) rfl⟩
  have hnil : ∀ {s : String}, joined '_' (words s) = [] → words s = [] := by
    intro s hjoined
    cases hwords : words s with
    | nil => rfl
    | cons word rest =>
      rw [hwords, joined_cons] at hjoined
      have hne := (hword word (hwords ▸ List.mem_cons_self)).1
      exact absurd (List.append_eq_nil_iff.mp hjoined).1 hne
  rw [← String.toList_inj, toList_slug, toList_slug]
  refine ⟨fun heq => ?_, congrArg _⟩
  by_cases hs : words s = []
  · rw [hs] at heq ⊢
    exact (hnil heq.symm).symm
  · have ht : words t ≠ [] := fun ht => hs (hnil (by rw [heq, ht]; rfl))
    exact (joined_inj hs ht (fun word h => (hword word h).2) fun word h => (hword word h).2).mp heq

/-- A slug has no colon. -/
theorem colon_not_mem_slug (s : String) : ':' ∉ (slug s).toList := by
  rw [toList_slug]
  intro h
  rcases mem_joined h with heq | ⟨word, hword, hc⟩
  · exact absurd heq (by decide)
  · exact ne_colon_of_isAlphanumeric ((of_mem_wordsOf hword).2 _ hc) rfl

end TelemetryAutomation.Text
