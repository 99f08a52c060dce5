import Mathlib

/-!
# Doubles

A finite double is `m * 2 ^ e` up to its sign. Each has one canonical form: `m` has 53 bits, unless `e` is as
small as it can be. Bits hold this form and nothing else, so packing a canonical form and unpacking it again
gives it back, or an infinity if `e` is too large.
-/

namespace TelemetryAutomation.Decimal

open Float.Model
open Float.Model.UnpackedFloat

/-- The form in which the bits of a double hold a finite value. -/
structure Canonical (m : Nat) (e : Int) : Prop where
  lt : m < 2 ^ 53
  le : -1074 ≤ e
  normal : e = -1074 ∨ 2 ^ 52 ≤ m

/-- The largest exponent of a finite double. -/
def maxExponent : Int := 971

theorem toNat_one_append (v : BitVec 52) : (1#1 ++ v).toNat = 2 ^ 52 + v.toNat := by
  rw [BitVec.toNat_append, ← Nat.shiftLeft_add_eq_or_of_lt v.isLt]
  rfl

/-! ## Unpacking -/

/-- What the bits of a double hold. -/
inductive Unpacked : UnpackedFloat → Prop
  | nan : Unpacked .notANumber
  | infinity (s : Sign) : Unpacked (.infinity s)
  | zero (s : Sign) : Unpacked (.zero s)
  | finite (s : Sign) {m : Nat} {e : Int} (hm : 0 < m) (hform : Canonical m e) (he : e ≤ maxExponent) :
      Unpacked (.finite s m e hm)

theorem unpacked_unpack (b : BitVec Format.binary64.numBits) : Unpacked (UnpackedFloat.unpack .binary64 b) := by
  fun_cases UnpackedFloat.unpack with
  | case1 => exact .infinity _
  | case2 => exact .nan
  | case3 => exact .zero _
  | case4 mantissa exponent _ _ _ _ hbottom =>
    have hlt : mantissa.toNat < 2 ^ 52 := mantissa.isLt
    have hzero : exponent.toNat = 0 := by simp [hbottom]
    have he : (exponent.toNat : Int) - (Format.binary64.exponentBias + 52 : Int) + 1 = -1074 := by
      rw [hzero]
      rfl
    refine .finite _ _ ⟨by omega, he.ge, .inl he⟩ (he.trans_le (by decide))
  | case5 mantissa exponent _ _ _ htop hbottom =>
    have hlt : mantissa.toNat < 2 ^ 52 := mantissa.isLt
    have hexponent : exponent.toNat < 2048 := exponent.isLt
    have hpos : exponent.toNat ≠ 0 := fun h => hbottom (BitVec.eq_of_toNat_eq h)
    have hmax : exponent.toNat ≠ 2047 := fun h => htop (BitVec.eq_of_toNat_eq h)
    have hm := toNat_one_append mantissa
    have he : ((Format.binary64.exponentBias : Nat) : Int) + 52 = 1075 := rfl
    refine .finite _ _ ⟨by omega, ?_, .inr (by omega)⟩ ?_
    · show -1074 ≤ (exponent.toNat : Int) - (Format.binary64.exponentBias + 52 : Int)
      omega
    · show (exponent.toNat : Int) - (Format.binary64.exponentBias + 52 : Int) ≤ 971
      omega

/-! ## Packing -/

theorem unpack_packedInfinity (s : Sign) :
    UnpackedFloat.unpack .binary64 (packedInfinity .binary64 s) = .infinity s := by
  cases s <;> rfl

theorem unpack_normal (s : Sign) {m b : Nat} (hm : 2 ^ 52 ≤ m) (hlt : m < 2 ^ 53) (hb : b ≠ 0)
    (hmax : b < 2047) :
    UnpackedFloat.unpack .binary64 (packComponents .binary64 s (BitVec.ofNat 11 b) (BitVec.ofNat 52 m)) =
      .finite s m (b - 1075) (by omega) := by
  have hexponent : (BitVec.ofNat 11 b).toNat = b := by
    rw [BitVec.toNat_ofNat]
    omega
  have hmantissa : (1#1 ++ BitVec.ofNat 52 m).toNat = m := by
    rw [toNat_one_append, BitVec.toNat_ofNat]
    omega
  have htop : BitVec.ofNat 11 b ≠ -1#_ := by
    intro h
    have heq : (BitVec.ofNat 11 b).toNat = 2047 := congrArg BitVec.toNat h
    omega
  have hbottom : BitVec.ofNat 11 b ≠ 0#_ := by
    intro h
    have heq : (BitVec.ofNat 11 b).toNat = 0 := congrArg BitVec.toNat h
    omega
  unfold UnpackedFloat.unpack
  simp only [unpackMantissa_packComponents, unpackExponent_packComponents, unpackSign_packComponents,
    Sign.ofBitVec_toBitVec, htop, hbottom, if_false, hexponent, hmantissa]
  rfl

theorem unpack_subnormal (s : Sign) {m : Nat} (hm : 0 < m) (hlt : m < 2 ^ 52) :
    UnpackedFloat.unpack .binary64 (packComponents .binary64 s 0#_ (BitVec.ofNat 52 m)) =
      .finite s m (-1074) hm := by
  have hmantissa : (BitVec.ofNat 52 m).toNat = m := by
    rw [BitVec.toNat_ofNat]
    omega
  have hzero : BitVec.ofNat 52 m ≠ 0#_ := by
    intro h
    have heq : (BitVec.ofNat 52 m).toNat = 0 := congrArg BitVec.toNat h
    omega
  have htop : BitVec.ofNat Format.binary64.exponentBits 0 ≠ -1#_ := by decide
  unfold UnpackedFloat.unpack
  simp only [unpackMantissa_packComponents, unpackExponent_packComponents, unpackSign_packComponents,
    Sign.ofBitVec_toBitVec, htop, if_false, if_true, hzero, dite_false, hmantissa]
  rfl

/-- Packing keeps a canonical form, unless its exponent is too large. -/
theorem unpack_pack (s : Sign) {m : Nat} {e : Int} (hm : 0 < m) (hform : Canonical m e) :
    UnpackedFloat.unpack .binary64 (UnpackedFloat.pack .binary64 (.finite s m e hm)) =
      if e ≤ maxExponent then .finite s m e hm else .infinity s := by
  obtain ⟨hlt, hle, hnormal⟩ := hform
  obtain ⟨b, hb⟩ : ∃ b : Nat, (b : Int) = e + 1075 := ⟨(e + 1075).toNat, by omega⟩
  have hbiased : (e + (Format.binary64.exponentBias : Nat) + (52 : Nat)).toNat = b := by
    show (e + (1023 : Nat) + (52 : Nat)).toNat = b
    omega
  have hpack : UnpackedFloat.pack .binary64 (.finite s m e hm) =
      if 2048 ≤ b + 1 then packedInfinity .binary64 s
      else if m.log2 + 1 = 53 then packComponents .binary64 s (BitVec.ofNat 11 b) (BitVec.ofNat 52 m)
      else packComponents .binary64 s 0#_ (BitVec.ofNat 52 m) := by
    rw [← hbiased]
    rfl
  have hbits : m.log2 + 1 = 53 ↔ 2 ^ 52 ≤ m := by
    have hlog : m.log2 < 53 := (Nat.log2_lt hm.ne').mpr hlt
    rw [← Nat.le_log2 hm.ne']
    omega
  have hmax : 2048 ≤ b + 1 ↔ ¬ e ≤ maxExponent := by
    unfold maxExponent
    omega
  rw [hpack]
  simp only [hbits, hmax, ite_not]
  split_ifs with he hnorm
  · rw [unpack_normal s hnorm hlt (by omega) (by unfold maxExponent at he; omega)]
    congr 1
    omega
  · obtain rfl : e = -1074 := hnormal.resolve_right hnorm
    exact unpack_subnormal s hm (by omega)
  · exact unpack_packedInfinity s

end TelemetryAutomation.Decimal
