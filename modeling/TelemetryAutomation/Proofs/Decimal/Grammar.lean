import TelemetryAutomation.Proofs.Decimal.Rounded
import TelemetryAutomation.Proofs.Text.Integer

/-!
# Decimal texts

`Writes` says which texts are decimals and which numbers they write, in exact arithmetic. The reader accepts
these texts, whatever their length, and gives the double to which the number is rounded; what it accepts
besides is no finite number.
-/

namespace TelemetryAutomation.Decimal

open TelemetryAutomation.Text (isDigit isDigit_iff isNatural isNatural_iff)

/-! ## The grammar -/

/-- The number that a run of digits writes. -/
def number (digits : List Char) : ℕ := Nat.ofDigitChars 10 digits 0

/-- The power of ten at the end of a decimal: nothing, or a mark and an integer. -/
inductive Power : List Char → ℤ → Prop
  | none : Power [] 0
  | plain {mark : Char} {digits : List Char} (hmark : mark = 'e' ∨ mark = 'E') (h : isNatural digits) :
      Power (mark :: digits) (number digits)
  | plus {mark : Char} {digits : List Char} (hmark : mark = 'e' ∨ mark = 'E') (h : isNatural digits) :
      Power (mark :: '+' :: digits) (number digits)
  | minus {mark : Char} {digits : List Char} (hmark : mark = 'e' ∨ mark = 'E') (h : isNatural digits) :
      Power (mark :: '-' :: digits) (-number digits)

/-- A decimal without sign. On one side of a point there may be no digits. -/
inductive Unsigned : List Char → ℚ → Prop
  | whole {whole power : List Char} {e : ℤ} (hwhole : isNatural whole) (hpower : Power power e) :
      Unsigned (whole ++ power) (number whole * 10 ^ e)
  | point {whole fraction power : List Char} {e : ℤ} (hwhole : whole.all isDigit)
      (hfraction : fraction.all isDigit) (hany : whole ++ fraction ≠ []) (hpower : Power power e) :
      Unsigned (whole ++ '.' :: (fraction ++ power))
        ((number whole + number fraction / 10 ^ fraction.length) * 10 ^ e)

/-- A decimal text and the number that it writes. -/
inductive Writes : List Char → ℚ → Prop
  | plain {cs : List Char} {a : ℚ} (h : Unsigned cs a) : Writes cs a
  | plus {cs : List Char} {a : ℚ} (h : Unsigned cs a) : Writes ('+' :: cs) a
  | minus {cs : List Char} {a : ℚ} (h : Unsigned cs a) : Writes ('-' :: cs) (-a)

variable {cs : List Char} {a q : ℚ} {e : ℤ} {x : Float}

/-! ## Powers -/

theorem natural?_eq_some_iff : exponent?.natural? cs = some e ↔ isNatural cs ∧ e = number cs := by
  unfold exponent?.natural?
  split_ifs with h
  · simp [h, number, eq_comm]
  · simp [h]

/-- A run of digits starts with no sign. -/
theorem not_isNatural_cons {sign : Char} {digits : List Char} (hsign : isDigit sign = false) :
    ¬ isNatural (sign :: digits) := by
  simp [isNatural, hsign]

theorem exponent?_unsigned {mark : Char} {digits : List Char} (hmark : mark = 'e' ∨ mark = 'E')
    (hplus : ∀ rest, digits = '+' :: rest → False) (hminus : ∀ rest, digits = '-' :: rest → False) :
    exponent? (mark :: digits) = exponent?.natural? digits := by
  rw [exponent?, if_pos hmark] <;> assumption

/-- The reader of powers accepts powers and nothing else. -/
theorem exponent?_eq_some_iff : exponent? cs = some e ↔ Power cs e := by
  constructor
  · intro h
    fun_cases exponent? cs with
    | case1 =>
      obtain rfl := Option.some.inj h
      exact .none
    | case2 mark hmark digits =>
      rw [exponent?, if_pos hmark] at h
      obtain ⟨hdigits, rfl⟩ := natural?_eq_some_iff.mp h
      exact .plus hmark hdigits
    | case3 mark hmark digits =>
      rw [exponent?, if_pos hmark] at h
      obtain ⟨n, hn, rfl⟩ := Option.map_eq_some_iff.mp h
      obtain ⟨hdigits, rfl⟩ := natural?_eq_some_iff.mp hn
      exact .minus hmark hdigits
    | case4 mark hmark digits hplus hminus =>
      rw [exponent?_unsigned hmark hplus hminus] at h
      obtain ⟨hdigits, rfl⟩ := natural?_eq_some_iff.mp h
      exact .plain hmark hdigits
    | case5 mark rest hmark =>
      unfold exponent? at h
      rw [if_neg hmark] at h
      cases h
  · intro h
    cases h with
    | none => rfl
    | plain hmark hdigits =>
      rw [exponent?_unsigned hmark (fun _ heq => not_isNatural_cons rfl (heq ▸ hdigits))
        (fun _ heq => not_isNatural_cons rfl (heq ▸ hdigits))]
      exact natural?_eq_some_iff.mpr ⟨hdigits, rfl⟩
    | plus hmark hdigits =>
      rw [exponent?, if_pos hmark]
      exact natural?_eq_some_iff.mpr ⟨hdigits, rfl⟩
    | minus hmark hdigits =>
      rw [exponent?, if_pos hmark]
      exact Option.map_eq_some_iff.mpr ⟨_, natural?_eq_some_iff.mpr ⟨hdigits, rfl⟩, rfl⟩

/-- A power starts with a mark, so that digits and a point end before it. -/
theorem Power.head {power : List Char} (h : Power power e) :
    power = [] ∨ ∃ mark rest, power = mark :: rest ∧ isDigit mark = false ∧ mark ≠ '.' := by
  have hmarks {mark : Char} (hmark : mark = 'e' ∨ mark = 'E') : isDigit mark = false ∧ mark ≠ '.' := by
    rcases hmark with rfl | rfl <;> decide
  cases h with
  | none => exact .inl rfl
  | plain hmark => exact .inr ⟨_, _, rfl, hmarks hmark⟩
  | plus hmark => exact .inr ⟨_, _, rfl, hmarks hmark⟩
  | minus hmark => exact .inr ⟨_, _, rfl, hmarks hmark⟩

/-! ## Digits with a point -/

/-- The number that the parts of a decimal write. -/
def Parts.value (parts : Parts) : ℚ :=
  (number parts.whole + number parts.fraction / 10 ^ parts.fraction.length) * 10 ^ parts.exponent

theorem number_append (whole fraction : List Char) :
    number (whole ++ fraction) = number whole * 10 ^ fraction.length + number fraction := by
  rw [number, Nat.ofDigitChars_append, Nat.ofDigitChars_eq_ofDigitChars_zero, mul_comm]
  rfl

/-- The digits on both sides of the point are read as one number. -/
theorem Parts.rounded_toFloat (parts : Parts) : Rounded parts.value parts.toFloat := by
  have hvalue : parts.value = (number (parts.whole ++ parts.fraction) : ℕ) *
      10 ^ (parts.exponent - parts.fraction.length) := by
    have hten : (10 : ℚ) ^ parts.fraction.length ≠ 0 := by positivity
    rw [number_append, zpow_sub₀ (by norm_num), zpow_natCast, Parts.value]
    push_cast
    field_simp
  rw [hvalue]
  exact (nearest_standsFor _ _).rounded

theorem takeWhile_append {digits rest : List Char} (hdigits : digits.all isDigit)
    (hrest : rest = [] ∨ ∃ c tail, rest = c :: tail ∧ isDigit c = false) :
    (digits ++ rest).takeWhile isDigit = digits ∧ (digits ++ rest).dropWhile isDigit = rest := by
  have hall := List.all_eq_true.mp hdigits
  rw [List.takeWhile_append_of_pos hall, List.dropWhile_append_of_pos hall]
  rcases hrest with rfl | ⟨c, tail, rfl, hc⟩
  · simp
  · simp [hc]

theorem parts?_point {rest : List Char} (h : cs.dropWhile isDigit = '.' :: rest) :
    parts? cs =
      if (cs.takeWhile isDigit).isEmpty && (rest.takeWhile isDigit).isEmpty then none
      else (exponent? (rest.dropWhile isDigit)).map (⟨cs.takeWhile isDigit, rest.takeWhile isDigit, ·⟩) := by
  unfold parts?
  rw [h]
  rfl

theorem parts?_whole (h : ∀ rest, cs.dropWhile isDigit ≠ '.' :: rest) :
    parts? cs =
      if (cs.takeWhile isDigit).isEmpty then none
      else (exponent? (cs.dropWhile isDigit)).map (⟨cs.takeWhile isDigit, [], ·⟩) := by
  unfold parts?
  generalize cs.dropWhile isDigit = tail at h
  split
  next fraction rest hsplit =>
    split at hsplit
    · next tail => exact absurd rfl (h tail)
    · obtain ⟨rfl, rfl⟩ := Prod.mk.inj hsplit
      simp only [List.isEmpty_nil, Bool.and_true]

/-- What is taken apart is a decimal without sign. -/
theorem unsigned_of_parts? {parts : Parts} (h : parts? cs = some parts) : Unsigned cs parts.value := by
  have hdigits (ds : List Char) : (ds.takeWhile isDigit).all isDigit := by simp
  have hcs : cs.takeWhile isDigit ++ cs.dropWhile isDigit = cs := List.takeWhile_append_dropWhile
  by_cases hpoint : ∃ rest, cs.dropWhile isDigit = '.' :: rest
  · obtain ⟨rest, hrest⟩ := hpoint
    rw [parts?_point hrest] at h
    split_ifs at h with hempty
    obtain ⟨e, he, rfl⟩ := Option.map_eq_some_iff.mp h
    have hany : cs.takeWhile isDigit ++ rest.takeWhile isDigit ≠ [] := by
      simpa [List.append_eq_nil_iff] using hempty
    have hunsigned := Unsigned.point (hdigits cs) (hdigits rest) hany (exponent?_eq_some_iff.mp he)
    rwa [List.takeWhile_append_dropWhile, ← hrest, hcs] at hunsigned
  · rw [parts?_whole (not_exists.mp hpoint)] at h
    split_ifs at h with hempty
    obtain ⟨e, he, rfl⟩ := Option.map_eq_some_iff.mp h
    have hwhole : isNatural (cs.takeWhile isDigit) :=
      isNatural_iff.mpr ⟨by simpa using hempty, hdigits cs⟩
    have hunsigned := Unsigned.whole hwhole (exponent?_eq_some_iff.mp he)
    rw [hcs] at hunsigned
    have hvalue : Parts.value ⟨cs.takeWhile isDigit, [], e⟩ = number (cs.takeWhile isDigit) * 10 ^ e := by
      simp [Parts.value, number]
    rwa [hvalue]

/-- Decimals without sign are taken apart. -/
theorem parts?_of_unsigned (h : Unsigned cs a) : ∃ parts, parts? cs = some parts ∧ parts.value = a := by
  cases h with
  | @whole whole power e hwhole hpower =>
    obtain ⟨hnil, hdigits⟩ := isNatural_iff.mp hwhole
    obtain ⟨htake, hdrop⟩ := takeWhile_append hdigits
      (hpower.head.imp_right fun ⟨c, tail, heq, hc, _⟩ => ⟨c, tail, heq, hc⟩)
    have hpoint : ∀ rest, (whole ++ power).dropWhile isDigit ≠ '.' :: rest := by
      rintro rest heq
      rw [hdrop] at heq
      rcases hpower.head with hnone | ⟨c, tail, hcons, -, hc⟩
      · rw [hnone] at heq
        cases heq
      · rw [hcons] at heq
        exact hc (List.cons.inj heq).1
    refine ⟨⟨whole, [], e⟩, ?_, by simp [Parts.value, number]⟩
    rw [parts?_whole hpoint, htake, hdrop, exponent?_eq_some_iff.mpr hpower]
    simp [hnil]
  | @point whole fraction power e hwhole hfraction hany hpower =>
    obtain ⟨htake, hdrop⟩ := takeWhile_append hwhole
      (.inr ⟨'.', fraction ++ power, rfl, rfl⟩ : _ ∨ ∃ c tail, '.' :: (fraction ++ power) = c :: tail ∧ isDigit c = false)
    obtain ⟨htake', hdrop'⟩ := takeWhile_append hfraction
      (hpower.head.imp_right fun ⟨c, tail, heq, hc, _⟩ => ⟨c, tail, heq, hc⟩)
    refine ⟨⟨whole, fraction, e⟩, ?_, rfl⟩
    rw [parts?_point hdrop, htake, htake', hdrop', exponent?_eq_some_iff.mpr hpower, if_neg]
    · rfl
    · simpa [List.append_eq_nil_iff] using hany

/-! ## Words and signs -/

/-- A decimal without sign starts with a digit or a point. -/
theorem Unsigned.head (h : Unsigned cs a) : ∃ c rest, cs = c :: rest ∧ (isDigit c ∨ c = '.') := by
  cases h with
  | whole hwhole =>
    obtain ⟨hnil, hdigits⟩ := isNatural_iff.mp hwhole
    obtain ⟨c, rest, rfl⟩ := List.exists_cons_of_ne_nil hnil
    exact ⟨c, _, rfl, .inl (List.all_eq_true.mp hdigits c List.mem_cons_self)⟩
  | @point whole _ _ _ hwhole =>
    cases whole with
    | nil => exact ⟨'.', _, rfl, .inr rfl⟩
    | cons c rest => exact ⟨c, _, rfl, .inl (List.all_eq_true.mp hwhole c List.mem_cons_self)⟩

/-- Characters at the start of a decimal are no letters. -/
theorem toLower_of_start {c : Char} (h : isDigit c ∨ c = '.') : c.toLower = c := by
  rcases h with hdigit | rfl
  · refine dif_neg fun hletter => ?_
    have hcapital : 'A'.val ≤ '9'.val := UInt32.le_trans hletter.1 (isDigit_iff.mp hdigit).2
    revert hcapital
    decide
  · rfl

/-- A decimal without sign is none of the words that the reader knows. -/
theorem Unsigned.map_toLower_ne (h : Unsigned cs a) {first : Char} {rest : List Char}
    (hletter : isDigit first = false ∧ first ≠ '.') : cs.map Char.toLower ≠ first :: rest := by
  obtain ⟨c, tail, rfl, hstart⟩ := h.head
  intro heq
  have hfirst : c = first := (toLower_of_start hstart).symm.trans (List.cons.inj heq).1
  subst hfirst
  rcases hstart with hdigit | hpoint
  · rw [hletter.1] at hdigit
    cases hdigit
  · exact hletter.2 hpoint

theorem unsigned?_of_unsigned (h : Unsigned cs a) : ∃ x, unsigned? cs = some x ∧ Rounded a x := by
  obtain ⟨parts, hparts, rfl⟩ := parts?_of_unsigned h
  refine ⟨parts.toFloat, ?_, parts.rounded_toFloat⟩
  have hinf : cs.map Char.toLower ≠ "inf".toList := h.map_toLower_ne ⟨rfl, by decide⟩
  have hinfinity : cs.map Char.toLower ≠ "infinity".toList := h.map_toLower_ne ⟨rfl, by decide⟩
  have hnan : cs.map Char.toLower ≠ "nan".toList := h.map_toLower_ne ⟨rfl, by decide⟩
  unfold unsigned?
  dsimp only
  rw [if_neg (not_or.mpr ⟨hinf, hinfinity⟩), if_neg hnan, hparts]
  rfl

/-- A text without sign that is read is a decimal or a word. -/
theorem unsigned?_cases (h : unsigned? cs = some x) :
    (∃ a, Unsigned cs a ∧ Rounded a x) ∨ x = 1 / 0 ∨ x = 0 / 0 := by
  unfold unsigned? at h
  dsimp only at h
  split_ifs at h
  · exact .inr (.inl (Option.some.inj h).symm)
  · exact .inr (.inr (Option.some.inj h).symm)
  · obtain ⟨parts, hparts, rfl⟩ := Option.map_eq_some_iff.mp h
    exact .inl ⟨parts.value, unsigned_of_parts? hparts, parts.rounded_toFloat⟩

theorem Unsigned.unique {b : ℚ} (h : Unsigned cs a) (h' : Unsigned cs b) : a = b := by
  obtain ⟨parts, hparts, rfl⟩ := parts?_of_unsigned h
  obtain ⟨parts', hparts', rfl⟩ := parts?_of_unsigned h'
  rw [hparts] at hparts'
  rw [Option.some.inj hparts']

theorem Unsigned.not_sign {c : Char} (h : Unsigned (c :: cs) a) : c ≠ '+' ∧ c ≠ '-' := by
  obtain ⟨first, rest, heq, hstart⟩ := h.head
  obtain rfl := (List.cons.inj heq).1
  constructor
  all_goals
    rintro rfl
    exact absurd hstart (by decide)

/-- A text writes only one number. -/
theorem Writes.unique {r : ℚ} (h : Writes cs q) (h' : Writes cs r) : q = r := by
  cases h with
  | plain h =>
    cases h' with
    | plain h' => exact h.unique h'
    | plus => exact absurd rfl h.not_sign.1
    | minus => exact absurd rfl h.not_sign.2
  | plus h =>
    cases h' with
    | plain h' => exact absurd rfl h'.not_sign.1
    | plus h' => exact h.unique h'
  | minus h =>
    cases h' with
    | plain h' => exact absurd rfl h'.not_sign.2
    | minus h' => rw [h.unique h']

/-- A decimal starts with a digit, a point or a sign, which are the same in lower case. -/
theorem Writes.head {cs : List Char} {q : ℚ} (h : Writes cs q) :
    ∃ c rest, cs = c :: rest ∧ (isDigit c ∨ c ∈ ['.', '+', '-']) := by
  cases h with
  | plain h =>
    obtain ⟨c, rest, rfl, hstart⟩ := h.head
    refine ⟨c, rest, rfl, hstart.imp_right ?_⟩
    rintro rfl
    decide
  | plus => exact ⟨'+', _, rfl, .inr (by decide)⟩
  | minus => exact ⟨'-', _, rfl, .inr (by decide)⟩

theorem writes_zero : Writes ['0'] 0 := by
  have hzero : Writes (['0'] ++ []) (number ['0'] * 10 ^ (0 : ℤ)) := .plain (.whole rfl .none)
  have hnumber : number ['0'] = 0 := rfl
  rwa [hnumber, Nat.cast_zero, zero_mul] at hzero

theorem read?_unsigned (hminus : ∀ rest, cs = '-' :: rest → False) (hplus : ∀ rest, cs = '+' :: rest → False) :
    read? cs = unsigned? cs := by
  rw [read?] <;> assumption

/-- **Decimals are read.** The double is the one to which the number is rounded. -/
theorem read?_of_writes (h : Writes cs q) : ∃ x, read? cs = some x ∧ Rounded q x := by
  cases h with
  | plain h =>
    obtain ⟨x, hread, hrounded⟩ := unsigned?_of_unsigned h
    refine ⟨x, ?_, hrounded⟩
    rw [read?_unsigned]
    · exact hread
    · rintro rest rfl
      exact h.not_sign.2 rfl
    · rintro rest rfl
      exact h.not_sign.1 rfl
  | plus h => exact unsigned?_of_unsigned h
  | minus h =>
    obtain ⟨x, hread, hrounded⟩ := unsigned?_of_unsigned h
    exact ⟨-x, Option.map_eq_some_iff.mpr ⟨x, hread, rfl⟩, hrounded.neg⟩

/-- **What is read is a decimal,** unless the double is not finite. -/
theorem writes_of_read? (h : read? cs = some x) (hfinite : x.isFinite) : ∃ q, Writes cs q ∧ Rounded q x := by
  fun_cases read? cs with
  | case1 rest =>
    obtain ⟨y, hread, rfl⟩ := Option.map_eq_some_iff.mp h
    rcases unsigned?_cases hread with ⟨a, hunsigned, hrounded⟩ | rfl | rfl
    · exact ⟨-a, .minus hunsigned, hrounded.neg⟩
    · cases hfinite
    · cases hfinite
  | case2 rest =>
    rcases unsigned?_cases h with ⟨a, hunsigned, hrounded⟩ | rfl | rfl
    · exact ⟨a, .plus hunsigned, hrounded⟩
    · cases hfinite
    · cases hfinite
  | case3 _ hminus hplus =>
    rw [read?_unsigned hminus hplus] at h
    rcases unsigned?_cases h with ⟨a, hunsigned, hrounded⟩ | rfl | rfl
    · exact ⟨a, .plain hunsigned, hrounded⟩
    · cases hfinite
    · cases hfinite

end TelemetryAutomation.Decimal
