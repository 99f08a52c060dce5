import Mathlib.Tactic.SplitIfs
import TelemetryAutomation.Proofs.Text.Trimming
import TelemetryAutomation.Text.Integer

/-!
# Integers as text

Different integers have different texts, made of digits and at most one sign. No digit is a blank, so trimming
leaves such texts alone.

A `Numeral` is one or more digits, perhaps after a plus. What is read as a positive integer is a numeral of it,
and every numeral is read as its number where that is not too large; after a minus no positive number is read.

* `readInt64_eq_ok_iff_numeral`: the texts that are read as a positive integer of 64 bits
-/

namespace TelemetryAutomation.Text

theorem isDigit_eq (c : Char) : isDigit c = c.isDigit := by
  simp [isDigit, Char.isDigit, Char.le_def]

theorem isDigit_iff {c : Char} : isDigit c ↔ '0'.val ≤ c.val ∧ c.val ≤ '9'.val := by
  simp [isDigit, Char.le_def]

theorem isNatural_iff {digits : List Char} : isNatural digits ↔ digits ≠ [] ∧ digits.all isDigit := by
  cases digits <;> simp [isNatural]

theorem isDigit_of_mem_decimalDigits {n : Nat} {c : Char} (h : c ∈ decimalDigits n) : isDigit c := by
  rw [isDigit_eq]
  exact Nat.isDigit_of_mem_toDigits (Nat.succ_pos 9) (Nat.le_refl 10) h

theorem decimalDigits_inj {m n : Nat} : decimalDigits m = decimalDigits n ↔ m = n := by
  refine ⟨fun h => ?_, congrArg _⟩
  have hread (k : Nat) : Nat.ofDigitChars 10 (decimalDigits k) 0 = k := Nat.ofDigitChars_ten_toDigits
  rw [← hread m, h, hread]

theorem minus_not_mem_decimalDigits (n : Nat) : '-' ∉ decimalDigits n :=
  fun h => absurd (isDigit_of_mem_decimalDigits h) (by decide)

/-- Different integers have different texts. -/
theorem decimal_inj {m n : Int} : decimal m = decimal n ↔ m = n := by
  refine ⟨fun h => ?_, congrArg _⟩
  rw [decimal, decimal, String.ofList_inj] at h
  -- the sign is seen from the first character
  have hsign : ∀ {k : Nat} {rest : List Char}, '-' :: rest ≠ decimalDigits k :=
    fun heq => minus_not_mem_decimalDigits _ (heq ▸ List.mem_cons_self)
  split_ifs at h with hm hn hn
  · have habs := decimalDigits_inj.mp (List.cons.inj h).2
    omega
  · exact absurd h hsign
  · exact absurd h.symm hsign
  · have habs := decimalDigits_inj.mp h
    omega

theorem colon_not_mem_decimal (n : Int) : ':' ∉ (decimal n).toList := by
  have hdigits : ':' ∉ decimalDigits n.natAbs :=
    fun h => absurd (isDigit_of_mem_decimalDigits h) (by decide)
  rw [decimal, String.toList_ofList]
  split_ifs
  · simp [hdigits]
  · exact hdigits

/-! ## Reading -/

/-- A text of a natural number: one or more digits, perhaps after a plus. -/
inductive Numeral : List Char → Nat → Prop
  | plain {digits : List Char} (h : isNatural digits) : Numeral digits (Nat.ofDigitChars 10 digits 0)
  | plus {digits : List Char} (h : isNatural digits) :
      Numeral ('+' :: digits) (Nat.ofDigitChars 10 digits 0)

variable {low high n : Int} {cs digits : List Char} {c : Char}

theorem Numeral.head {rest : List Char} {m : Nat} (h : Numeral (c :: rest) m) : c = '+' ∨ isDigit c := by
  cases h with
  | plain hdigits => exact .inr (List.all_eq_true.mp (isNatural_iff.mp hdigits).2 c List.mem_cons_self)
  | plus => exact .inl rfl

theorem numeral_decimalDigits (n : Nat) : Numeral (decimalDigits n) n := by
  have hdigits : isNatural (decimalDigits n) := by
    rw [isNatural_iff, List.all_eq_true]
    exact ⟨Nat.toDigits_ne_nil, fun c => isDigit_of_mem_decimalDigits⟩
  have hnumeral := Numeral.plain hdigits
  rwa [show Nat.ofDigitChars 10 (decimalDigits n) 0 = n from Nat.ofDigitChars_ten_toDigits] at hnumeral

theorem toList_decimal (n : Nat) : (decimal n).toList = decimalDigits n := by
  rw [decimal, String.toList_ofList, if_neg (Int.not_lt.mpr (Int.natCast_nonneg n)), Int.natAbs_natCast]

theorem le_ofDigitChars (cs : List Char) (acc : Nat) : acc ≤ Nat.ofDigitChars 10 cs acc := by
  induction cs generalizing acc with
  | nil => exact Nat.le_refl acc
  | cons c rest ih =>
    rw [Nat.ofDigitChars_cons]
    have hrest := ih (10 * acc + (c.toNat - '0'.toNat))
    omega

theorem readUp_cons_of_not_isDigit (hc : ¬ isDigit c) (acc : Int) (rest : List Char) :
    readUp high acc (c :: rest) = .error .invalidDigit := by
  rw [readUp, digit?, if_neg hc]

/-- Digits are read as their number where it is not too large, and nothing else is read. -/
theorem readUp_eq_ok_iff (acc : Nat) (hacc : acc ≤ high) :
    readUp high acc cs = .ok n ↔ cs.all isDigit ∧ Nat.ofDigitChars 10 cs acc = n ∧ n ≤ high := by
  induction cs generalizing acc with
  | nil =>
    rw [readUp, Nat.ofDigitChars_nil, Except.ok.injEq]
    constructor
    · rintro rfl
      exact ⟨rfl, rfl, hacc⟩
    · exact fun h => h.2.1
  | cons c rest ih =>
    by_cases hc : isDigit c
    · have hnext : (acc : Int) * 10 + (c.toNat - '0'.toNat : Nat) =
          ((10 * acc + (c.toNat - '0'.toNat) : Nat) : Int) := by omega
      rw [List.all_cons, hc, Bool.true_and, Nat.ofDigitChars_cons]
      simp only [readUp, digit?, if_pos hc, hnext]
      by_cases hle : ((10 * acc + (c.toNat - '0'.toNat) : Nat) : Int) ≤ high
      · rw [if_pos hle, ih _ hle]
      · -- more digits only make the number larger
        rw [if_neg hle]
        refine iff_of_false nofun ?_
        rintro ⟨-, hvalue, hhigh⟩
        have hle' := le_ofDigitChars rest (10 * acc + (c.toNat - '0'.toNat))
        omega
    · rw [readUp_cons_of_not_isDigit hc]
      simp [hc]

theorem readUp_zero_eq_ok_iff (hhigh : 0 ≤ high) (hne : digits ≠ []) :
    readUp high 0 digits = .ok n ↔ isNatural digits ∧ Nat.ofDigitChars 10 digits 0 = n ∧ n ≤ high := by
  rw [isNatural_iff, and_iff_right hne]
  exact readUp_eq_ok_iff 0 hhigh

/-- What is read after a minus is not positive. -/
theorem bounds_of_readDown {acc : Int} (hlow : low ≤ acc) (hacc : acc ≤ 0)
    (h : readDown low acc cs = .ok n) : low ≤ n ∧ n ≤ 0 := by
  induction cs generalizing acc with
  | nil =>
    rw [readDown, Except.ok.injEq] at h
    exact h ▸ ⟨hlow, hacc⟩
  | cons c rest ih =>
    rw [readDown] at h
    split at h
    · cases h
    · split at h
      · next hle => exact ih hle (by omega) h
      · cases h

theorem readInteger_plus (h : digits ≠ []) : readInteger low high ('+' :: digits) = readUp high 0 digits := by
  cases digits with
  | nil => contradiction
  | cons c rest => rfl

theorem readInteger_minus (h : digits ≠ []) :
    readInteger low high ('-' :: digits) =
      if low < 0 then readDown low 0 digits else .error .invalidDigit := by
  cases digits with
  | nil => contradiction
  | cons c rest => rfl

theorem readInteger_unsigned (hplus : c ≠ '+') (hminus : c ≠ '-') (rest : List Char) :
    readInteger low high (c :: rest) = readUp high 0 (c :: rest) := by
  unfold readInteger
  split <;> simp_all

/-- A numeral is read as its number where that is not too large. -/
theorem Numeral.readInteger_eq {m : Nat} (h : Numeral cs m) (hhigh : m ≤ high) :
    readInteger low high cs = .ok m := by
  have hzero : 0 ≤ high := by omega
  cases h with
  | plain hdigits =>
    obtain ⟨hne, hall⟩ := isNatural_iff.mp hdigits
    obtain ⟨c, rest, rfl⟩ := List.exists_cons_of_ne_nil hne
    have hc : isDigit c := List.all_eq_true.mp hall c List.mem_cons_self
    have hplus : c ≠ '+' := by
      rintro rfl
      exact absurd hc (by decide)
    have hminus : c ≠ '-' := by
      rintro rfl
      exact absurd hc (by decide)
    rw [readInteger_unsigned hplus hminus]
    exact (readUp_zero_eq_ok_iff hzero hne).mpr ⟨hdigits, rfl, hhigh⟩
  | plus hdigits =>
    have hne := (isNatural_iff.mp hdigits).1
    rw [readInteger_plus hne]
    exact (readUp_zero_eq_ok_iff hzero hne).mpr ⟨hdigits, rfl, hhigh⟩

/-- What is read is the number of a numeral, unless it is not positive. -/
theorem readInteger_cases (hhigh : 0 ≤ high) (h : readInteger low high cs = .ok n) :
    (∃ m : Nat, n = m ∧ Numeral cs m ∧ n ≤ high) ∨ low ≤ n ∧ n ≤ 0 := by
  cases cs with
  | nil => cases h
  | cons c rest =>
    by_cases hsign : (c = '+' ∨ c = '-') ∧ rest = []
    · obtain ⟨rfl | rfl, rfl⟩ := hsign <;> cases h
    by_cases hplus : c = '+'
    · subst hplus
      have hne : rest ≠ [] := fun hnil => hsign ⟨.inl rfl, hnil⟩
      rw [readInteger_plus hne, readUp_zero_eq_ok_iff hhigh hne] at h
      obtain ⟨hdigits, hvalue, hle⟩ := h
      exact .inl ⟨_, hvalue.symm, .plus hdigits, hle⟩
    by_cases hminus : c = '-'
    · subst hminus
      rw [readInteger_minus fun hnil => hsign ⟨.inr rfl, hnil⟩] at h
      split at h
      · next hlow => exact .inr (bounds_of_readDown (Int.le_of_lt hlow) (Int.le_refl 0) h)
      · cases h
    rw [readInteger_unsigned hplus hminus, readUp_zero_eq_ok_iff hhigh (List.cons_ne_nil c rest)] at h
    obtain ⟨hdigits, hvalue, hle⟩ := h
    exact .inl ⟨_, hvalue.symm, .plain hdigits, hle⟩

/-- A text that begins neither with a digit nor with a sign is no integer. -/
theorem readInt64_of_not_isDigit (hplus : c ≠ '+') (hminus : c ≠ '-') (hc : ¬ isDigit c) (rest : List Char) :
    readInt64 (c :: rest) = .error .invalidDigit := by
  rw [readInt64, readInteger_unsigned hplus hminus, readUp_cons_of_not_isDigit hc]
  rfl

/-- An integer of 64 bits is read wherever an integer is read between its bounds. -/
theorem readInt64_eq_ok_iff {value : Int64} :
    readInt64 cs = .ok value ↔
      readInteger (-0x8000000000000000) 0x7fffffffffffffff cs = .ok value.toInt := by
  rw [readInt64]
  cases hread : readInteger (-0x8000000000000000) 0x7fffffffffffffff cs with
  | error fault => exact iff_of_false nofun nofun
  | ok n =>
    have hbounds : -2 ^ 63 ≤ n ∧ n < 2 ^ 63 := by
      rcases readInteger_cases (by decide) hread with ⟨m, hm, -, hle⟩ | ⟨hlow, hle⟩ <;> omega
    have hvalue : (Int64.ofInt n).toInt = n := Int64.toInt_ofInt_of_le hbounds.1 hbounds.2
    rw [Except.map, Except.ok.injEq, Except.ok.injEq, ← Int64.toInt_inj, hvalue]

/-- The texts that are read as a positive integer of 64 bits are its numerals. -/
theorem readInt64_eq_ok_iff_numeral {value : Int64} (h : 0 < value) :
    readInt64 cs = .ok value ↔ Numeral cs value.toInt.toNat := by
  have hpos : 0 < value.toInt := Int64.lt_iff_toInt_lt.mp h
  have hlt := value.toInt_lt
  rw [readInt64_eq_ok_iff]
  constructor
  · intro hread
    rcases readInteger_cases (by decide) hread with ⟨m, hm, hnumeral, -⟩ | ⟨-, hle⟩
    · rwa [hm, Int.toNat_natCast]
    · omega
  · intro hnumeral
    rw [hnumeral.readInteger_eq (by omega), Int.toNat_of_nonneg (Int.le_of_lt hpos)]

/-- The digits of a number are read as the number where it is not too large. -/
theorem readInteger_decimalDigits {low high : Int} {n : Nat} (h : n ≤ high) :
    readInteger low high (decimalDigits n) = .ok n :=
  (numeral_decimalDigits n).readInteger_eq h

/-! ## Blanks -/

/-- A text without blanks is not trimmed. -/
theorem trim_eq_self {cs : List Char} (h : ∀ c ∈ cs, isBlank c = false) : trim cs = cs :=
  (isTrimmed_of_forall h).trim_eq

theorem isBlank_of_isDigit {c : Char} (h : isDigit c) : isBlank c = false := by
  obtain ⟨hlower, hupper⟩ := isDigit_iff.mp h
  rw [UInt32.le_iff_toNat_le] at hlower hupper
  have hzero : '0'.val.toNat = 48 := rfl
  have hnine : '9'.val.toNat = 57 := rfl
  refine isBlank_of_visible ⟨?_, ?_⟩ <;> rw [Char.toNat] <;> omega

end TelemetryAutomation.Text
