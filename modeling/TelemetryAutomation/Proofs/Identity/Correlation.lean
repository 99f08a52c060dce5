import Mathlib.Algebra.Group.Nat.Defs
import TelemetryAutomation.Identity.Correlation

/-!
# Correlation ids as text

The text of a correlation id is read back as the id, so different ids have different texts. It consists of
digits, and the separators of longer ids are none.
-/

namespace TelemetryAutomation

open CorrelationId (alphabet digit? length)

/-! ## Digits -/

namespace CorrelationId

/-- The character of a digit. -/
def character (digit : Nat) : Char := alphabet[digit]?.getD '0'

theorem digit?_character {digit : Nat} (h : digit < 32) : digit? (character digit) = some digit := by
  have hall : ∀ digit < 32, digit? (character digit) = some digit := by decide
  exact hall digit h

theorem character_mem_alphabet {digit : Nat} (h : digit < 32) : character digit ∈ alphabet := by
  have hall : ∀ digit < 32, character digit ∈ alphabet := by decide
  exact hall digit h

theorem utf8Size_of_mem_alphabet (c : Char) (h : c ∈ alphabet) : c.utf8Size = 1 := by
  have hall : alphabet.all fun c => c.utf8Size = 1 := by decide
  exact of_decide_eq_true (List.all_eq_true.mp hall c h)

theorem colon_not_mem_alphabet : ':' ∉ alphabet := by decide

/-- The last digits of a number, the most significant one first. -/
def digitsOf (count n : Nat) : List Nat := (List.range count).map fun i => n / 32 ^ (count - 1 - i) % 32

theorem lt_of_mem_digitsOf {count n digit : Nat} (h : digit ∈ digitsOf count n) : digit < 32 := by
  obtain ⟨i, -, rfl⟩ := List.mem_map.mp h
  exact Nat.mod_lt _ (by decide)

/-- One digit more is that of the ones, behind those of the number without it. -/
theorem digitsOf_succ (count n : Nat) : digitsOf (count + 1) n = digitsOf count (n / 32) ++ [n % 32] := by
  rw [digitsOf, digitsOf, List.range_succ, List.map_append, List.map_singleton]
  congr 1
  · apply List.map_congr_left
    intro i hi
    have hsucc : count + 1 - 1 - i = count - 1 - i + 1 := by
      have hlt := List.mem_range.mp hi
      omega
    rw [hsucc, Nat.pow_succ', Nat.div_div_eq_div_mul]
  · rw [Nat.add_sub_cancel, Nat.sub_self, Nat.pow_zero, Nat.div_one]

/-- The digits give the number back, as far as they go. -/
theorem foldl_digitsOf (count n : Nat) :
    (digitsOf count n).foldl (fun value digit => value * 32 + digit) 0 = n % 32 ^ count := by
  induction count generalizing n with
  | zero => simp [digitsOf, Nat.mod_one]
  | succ count ih =>
    rw [digitsOf_succ, List.foldl_append, ih, List.foldl_cons, List.foldl_nil, Nat.pow_succ', Nat.mod_mul]
    omega

theorem mapM_digit? {digits : List Nat} (h : ∀ digit ∈ digits, digit < 32) :
    (digits.map character).mapM digit? = some digits := by
  induction digits with
  | nil => rfl
  | cons digit rest ih =>
    obtain ⟨hdigit, hrest⟩ := List.forall_mem_cons.mp h
    rw [List.map_cons, List.mapM_cons, digit?_character hdigit, ih hrest]
    rfl

/-! ## Texts -/

variable {id other : CorrelationId}

theorem text_eq (id : CorrelationId) :
    id.text = .ofList ((digitsOf length id.bits.toNat).map character) := by
  rw [text, digitsOf, List.map_map]
  rfl

theorem mem_alphabet_of_mem_text {c : Char} (h : c ∈ id.text.toList) : c ∈ alphabet := by
  rw [text_eq, String.toList_ofList] at h
  obtain ⟨digit, hdigit, rfl⟩ := List.mem_map.mp h
  exact character_mem_alphabet (lt_of_mem_digitsOf hdigit)

theorem colon_not_mem_text : ':' ∉ id.text.toList :=
  fun h => colon_not_mem_alphabet (mem_alphabet_of_mem_text h)

theorem utf8ByteSize_ofList {cs : List Char} (h : ∀ c ∈ cs, c ∈ alphabet) :
    (String.ofList cs).utf8ByteSize = cs.length := by
  induction cs with
  | nil => rfl
  | cons c rest ih =>
    obtain ⟨hc, hrest⟩ := List.forall_mem_cons.mp h
    have hsize : (String.singleton c).utf8ByteSize = 1 := by
      rw [String.utf8ByteSize_singleton, utf8Size_of_mem_alphabet c hc]
    rw [← List.singleton_append, String.ofList_append, String.utf8ByteSize_append, ih hrest,
      ← String.singleton_eq_ofList, hsize, List.length_append, List.length_singleton]

/-- **The text of an id is read as the id.** -/
theorem read_text (id : CorrelationId) : read id.text = .ok id := by
  have hsize : id.text.utf8ByteSize = length := by
    have halphabet : ∀ c ∈ id.text.toList, c ∈ alphabet := fun c => mem_alphabet_of_mem_text
    have hlength : id.text.toList.length = length := by
      rw [text_eq, String.toList_ofList, List.length_map, digitsOf, List.length_map, List.length_range]
    rw [← hlength, ← utf8ByteSize_ofList halphabet, String.ofList_toList]
  have hdigits : id.text.toList.mapM digit? = some (digitsOf length id.bits.toNat) := by
    rw [text_eq, String.toList_ofList, mapM_digit? fun digit => lt_of_mem_digitsOf]
  -- 26 digits have room for all 128 bits
  have hbits : id.bits.toNat % 32 ^ length = id.bits.toNat :=
    Nat.mod_eq_of_lt (Nat.lt_trans id.bits.isLt (by decide))
  rw [read, if_neg (not_not_intro hsize)]
  simp only [hdigits]
  rw [foldl_digitsOf, hbits, BitVec.ofNat_toNat, BitVec.setWidth_eq]

theorem text_inj : id.text = other.text ↔ id = other := by
  refine ⟨fun h => ?_, congrArg _⟩
  have hread := read_text id
  rw [h, read_text other, Except.ok.injEq] at hread
  exact hread.symm

end CorrelationId

end TelemetryAutomation
