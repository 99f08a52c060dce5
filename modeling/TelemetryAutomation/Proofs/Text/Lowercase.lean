import Mathlib.Tactic.SplitIfs
import TelemetryAutomation.Proofs.Text.Pieces
import TelemetryAutomation.Text.Alphanumeric
import TelemetryAutomation.Text.Lowercase

/-!
# Lower case

On ASCII texts lower case is a map of characters. It moves letters to letters and leaves everything else
where it is, so it commutes with cutting a text at a mark. On every text it leaves no capital behind, so an
ASCII text is in lower case exactly if it has none.
-/

namespace TelemetryAutomation.Text

/-- Whether all characters of a text are ASCII. -/
def IsAscii (cs : List Char) : Prop := ∀ c ∈ cs, c.toNat < 128

theorem isAscii_append {cs rest : List Char} :
    IsAscii (cs ++ rest) ↔ IsAscii cs ∧ IsAscii rest :=
  List.forall_mem_append

theorem isAscii_cons {c : Char} {rest : List Char} :
    IsAscii (c :: rest) ↔ c.toNat < 128 ∧ IsAscii rest :=
  List.forall_mem_cons

/-- An ASCII character stands for itself at the front of a text in lower case. -/
theorem lowerAfter_cons {c : Char} (h : c.toNat < 128) (before rest : List Char) :
    lowerAfter before (c :: rest) = c.toLower :: lowerAfter (c :: before) rest := by
  have hsigma : c ≠ 'Σ' := by
    rintro rfl
    exact absurd h (by decide)
  rw [lowerAfter, if_neg hsigma, lowerChar, if_pos h]
  rfl

theorem lowerChar_ne_nil (c : Char) : lowerChar c ≠ [] := by
  unfold lowerChar
  split_ifs
  · exact List.cons_ne_nil _ _
  · exact List.cons_ne_nil _ _
  · split <;> exact List.cons_ne_nil _ _

/-- No character is lost in lower case. -/
theorem lowerAfter_eq_nil {before cs : List Char} (h : lowerAfter before cs = []) : cs = [] := by
  cases cs with
  | nil => rfl
  | cons c rest =>
    rw [lowerAfter] at h
    have hfirst := (List.append_eq_nil_iff.mp h).1
    split_ifs at hfirst
    exact absurd hfirst (lowerChar_ne_nil c)

/-- Where the lower case of an ASCII text starts does not matter: no character looks at its neighbours. -/
theorem lowerAfter_eq_map {cs : List Char} (h : IsAscii cs) (before : List Char) :
    lowerAfter before cs = cs.map Char.toLower := by
  induction cs generalizing before with
  | nil => rfl
  | cons c rest ih =>
    obtain ⟨hc, hrest⟩ := isAscii_cons.mp h
    rw [lowerAfter_cons hc, ih hrest, List.map_cons]

theorem lower_eq_map {cs : List Char} (h : IsAscii cs) : lower cs = cs.map Char.toLower :=
  lowerAfter_eq_map h []

/-! ## Characters -/

theorem lt_of_isPlainAlphanumeric {c : Char} (h : isPlainAlphanumeric c) : c.toNat < 128 := by
  simp only [isPlainAlphanumeric, isDigit, Bool.or_eq_true, Bool.and_eq_true, decide_eq_true_eq,
    Char.le_def, UInt32.le_iff_toNat_le] at h
  have hdigits : '9'.val.toNat = 57 := rfl
  have hsmall : 'z'.val.toNat = 122 := rfl
  have hcapitals : 'Z'.val.toNat = 90 := rfl
  rw [Char.toNat]
  omega

/-- Only letters change, and they become letters. -/
theorem toLower_cases {c : Char} (hc : c.toNat < 128) :
    c.toLower = c ∨ isPlainAlphanumeric c ∧ isPlainAlphanumeric c.toLower := by
  -- there are only 128 of them
  have hall : ∀ n < 128, (Char.ofNat n).toLower = Char.ofNat n ∨
      isPlainAlphanumeric (Char.ofNat n) ∧ isPlainAlphanumeric (Char.ofNat n).toLower := by
    decide +kernel
  have hn := hall c.toNat hc
  rwa [Char.ofNat_toNat] at hn

theorem isPlainAlphanumeric_toLower {c : Char} (hc : c.toNat < 128) :
    isPlainAlphanumeric c.toLower = isPlainAlphanumeric c := by
  rcases toLower_cases hc with heq | ⟨hletter, hlower⟩
  · rw [heq]
  · rw [hletter, hlower]

/-- No character becomes a mark but the mark itself. -/
theorem toLower_eq_iff {c mark : Char} (hmark : isPlainAlphanumeric mark = false)
    (hc : c.toNat < 128) : c.toLower = mark ↔ c = mark := by
  rcases toLower_cases hc with heq | ⟨hletter, hlower⟩
  · rw [heq]
  · constructor
    · rintro rfl
      rw [hmark] at hlower
      contradiction
    · rintro rfl
      rw [hmark] at hletter
      contradiction

/-! ## Capitals -/

/-- The capitals that are ASCII characters. -/
def IsCapital (c : Char) : Prop := 'A' ≤ c ∧ c ≤ 'Z'

instance : DecidablePred IsCapital := fun c => inferInstanceAs (Decidable ('A' ≤ c ∧ c ≤ 'Z'))

theorem isCapital_iff {c : Char} : IsCapital c ↔ 65 ≤ c.toNat ∧ c.toNat ≤ 90 := by
  simp only [IsCapital, Char.le_def, UInt32.le_iff_toNat_le]
  rfl

/-- In lower case there are no capitals, and nothing else is changed. -/
theorem toLower_of_lt {c : Char} (hc : c.toNat < 128) :
    ¬ IsCapital c.toLower ∧ (¬ IsCapital c → c.toLower = c) := by
  have hall : ∀ n < 128, ¬ IsCapital (Char.ofNat n).toLower ∧
      (¬ IsCapital (Char.ofNat n) → (Char.ofNat n).toLower = Char.ofNat n) := by
    decide +kernel
  have hn := hall c.toNat hc
  rwa [Char.ofNat_toNat] at hn

/-- The letters beyond ASCII become letters beyond ASCII or small ones, as `K` for kelvin becomes `k`. -/
theorem lt_of_mem_caseRuns : ∀ run ∈ caseRuns, 90 < run.first + run.distance := by
  decide +kernel

theorem not_isCapital_ofNat {n : Nat} (h : 90 < n) : ¬ IsCapital (Char.ofNat n) := by
  rw [isCapital_iff, Char.ofNat]
  by_cases hvalid : n.isValidChar
  · rw [dif_pos hvalid]
    show ¬ (65 ≤ n ∧ n ≤ 90)
    omega
  · rw [dif_neg hvalid]
    decide

theorem not_isCapital_of_mem_lowerChar {c lower : Char} (h : lower ∈ lowerChar c) : ¬ IsCapital lower := by
  unfold lowerChar at h
  split at h
  · next hc =>
    obtain rfl := List.mem_singleton.mp h
    exact (toLower_of_lt hc).1
  · next hc =>
    split at h
    · have hall : ['i', '\u0307'].all fun lower => ¬ IsCapital lower := by decide
      exact of_decide_eq_true (List.all_eq_true.mp hall lower h)
    · split at h
      · next run hrun =>
        have hdistance := lt_of_mem_caseRuns run (List.mem_of_find?_eq_some hrun)
        have hcovers := List.find?_some hrun
        simp only [CaseRun.covers, Bool.and_eq_true, decide_eq_true_eq] at hcovers
        obtain rfl := List.mem_singleton.mp h
        exact not_isCapital_ofNat (by omega)
      · obtain rfl := List.mem_singleton.mp h
        rw [isCapital_iff]
        omega

theorem not_isCapital_of_mem_lowerAfter {before cs : List Char} {lower : Char}
    (h : lower ∈ lowerAfter before cs) : ¬ IsCapital lower := by
  induction cs generalizing before with
  | nil => cases h
  | cons c rest ih =>
    rw [lowerAfter] at h
    rcases List.mem_append.mp h with hfirst | hrest
    · split at hfirst
      · have hsigma : ¬ IsCapital 'ς' ∧ ¬ IsCapital 'σ' := by decide
        obtain rfl := List.mem_singleton.mp hfirst
        split
        · exact hsigma.1
        · exact hsigma.2
      · exact not_isCapital_of_mem_lowerChar hfirst
    · exact ih hrest

/-- No capital is left in lower case, whatever the text is made of. -/
theorem not_isCapital_of_mem_lower {cs : List Char} {c : Char} (h : c ∈ lower cs) : ¬ IsCapital c :=
  not_isCapital_of_mem_lowerAfter h

/-- An ASCII text without capitals is in lower case. -/
theorem lower_eq_self {cs : List Char} (hascii : IsAscii cs) (hcapitals : ∀ c ∈ cs, ¬ IsCapital c) :
    lower cs = cs := by
  rw [lower_eq_map hascii]
  have hfixed : ∀ c ∈ cs, c.toLower = c := fun c hc => (toLower_of_lt (hascii c hc)).2 (hcapitals c hc)
  exact (List.map_congr_left hfixed).trans (List.map_id' cs)

/-! ## Cutting -/

/-- A map that keeps a separator in its place can be applied to the pieces. -/
theorem pieces_map {separator : Char} {f : Char → Char} {cs : List Char}
    (hf : ∀ c ∈ cs, f c = separator ↔ c = separator) :
    pieces separator (cs.map f) = (pieces separator cs).map (List.map f) := by
  induction cs with
  | nil => rfl
  | cons c rest ih =>
    obtain ⟨hc, hrest⟩ := List.forall_mem_cons.mp hf
    rw [List.map_cons, pieces, pieces, ih hrest]
    by_cases hsep : c = separator
    · rw [if_pos hsep, if_pos (hc.mpr hsep)]
      rfl
    · rw [if_neg hsep, if_neg (mt hc.mp hsep)]
      cases pieces separator rest <;> rfl

/-- A map that keeps a separator in its place can be applied to both sides of a cut. -/
theorem cut_map {separator : Char} {f : Char → Char} {cs : List Char}
    (hf : ∀ c ∈ cs, f c = separator ↔ c = separator) :
    cut separator (cs.map f) = (cut separator cs).map (Prod.map (List.map f) (List.map f)) := by
  induction cs with
  | nil => rfl
  | cons c rest ih =>
    obtain ⟨hc, hrest⟩ := List.forall_mem_cons.mp hf
    rw [List.map_cons, cut, cut, ih hrest]
    by_cases hsep : c = separator
    · rw [if_pos hsep, if_pos (hc.mpr hsep)]
      rfl
    · rw [if_neg hsep, if_neg (mt hc.mp hsep)]
      cases cut separator rest <;> rfl

theorem IsAscii.of_mem_pieces {separator : Char} {cs piece : List Char} (h : IsAscii cs)
    (hpiece : piece ∈ pieces separator cs) : IsAscii piece := by
  intro c hc
  have hmem : c ∈ joined separator (pieces separator cs) := mem_joined_of_mem hpiece hc
  rw [joined_pieces] at hmem
  exact h c hmem

end TelemetryAutomation.Text
