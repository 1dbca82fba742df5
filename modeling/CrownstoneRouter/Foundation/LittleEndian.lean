import Mathlib.Data.Nat.Bitwise
import Mathlib.Tactic.Common

/-!
# Little-endian fields

The two-byte encoding of a 16-bit number, least significant byte first, and its inverse. A 32-bit
number is encoded by its halves.
-/

namespace LittleEndian

def putLe16 (value : UInt16) : List UInt8 :=
  [value.toUInt8, (value >>> 8).toUInt8]

def putLe32 (value : UInt32) : List UInt8 :=
  putLe16 value.toUInt16 ++ putLe16 (value >>> 16).toUInt16

def getLe16 (low high : UInt8) : UInt16 :=
  (high.toUInt16 <<< 8) ||| low.toUInt16

@[simp]
theorem length_putLe16 (value : UInt16) : (putLe16 value).length = 2 := rfl

@[simp]
theorem length_putLe32 (value : UInt32) : (putLe32 value).length = 4 := rfl

/-- The arithmetic meaning of a decoded field. -/
theorem toNat_getLe16 (low high : UInt8) :
    (getLe16 low high).toNat = 256 * high.toNat + low.toNat := by
  have hlow : low.toNat < 2 ^ 8 := low.toNat_lt
  have hhigh : high.toNat < 2 ^ 8 := high.toNat_lt
  have hshift : high.toNat <<< 8 % 2 ^ 16 = high.toNat <<< 8 := by
    apply Nat.mod_eq_of_lt
    rw [Nat.shiftLeft_eq]
    omega
  calc
    (getLe16 low high).toNat = high.toNat <<< 8 % 2 ^ 16 ||| low.toNat := by
      simp [getLe16]
    _ = high.toNat <<< 8 + low.toNat := by
      rw [hshift, Nat.shiftLeft_add_eq_or_of_lt hlow]
    _ = 256 * high.toNat + low.toNat := by
      rw [Nat.shiftLeft_eq]
      omega

theorem toNat_highByte (value : UInt16) :
    (value >>> 8).toUInt8.toNat = value.toNat / 256 % 256 := by
  rw [UInt16.toNat_toUInt8, UInt16.toNat_shiftRight, Nat.shiftRight_eq_div_pow]
  rfl

@[simp]
theorem getLe16_putLe16 (value : UInt16) :
    getLe16 value.toUInt8 (value >>> 8).toUInt8 = value := by
  have hvalue : value.toNat < 2 ^ 16 := value.toNat_lt
  apply UInt16.toNat.inj
  rw [toNat_getLe16, toNat_highByte, UInt16.toNat_toUInt8]
  omega

theorem putLe16_injective : Function.Injective putLe16 := by
  intro left right h
  obtain ⟨hlow, hhigh⟩ := List.cons.inj h
  rw [← getLe16_putLe16 left, ← getLe16_putLe16 right, hlow, List.head_eq_of_cons_eq hhigh]

/-- Encoding inverts decoding. -/
theorem putLe16_getLe16 (low high : UInt8) : putLe16 (getLe16 low high) = [low, high] := by
  have hlow : low.toNat < 2 ^ 8 := low.toNat_lt
  have hhigh : high.toNat < 2 ^ 8 := high.toNat_lt
  have hlowByte : (getLe16 low high).toUInt8 = low := by
    apply UInt8.toNat.inj
    rw [UInt16.toNat_toUInt8, toNat_getLe16]
    omega
  have hhighByte : (getLe16 low high >>> 8).toUInt8 = high := by
    apply UInt8.toNat.inj
    rw [toNat_highByte, toNat_getLe16]
    omega
  rw [putLe16, hlowByte, hhighByte]

end LittleEndian
