import FaultDrill.Decimal.Basic
import Mathlib

/-!
The bits of binary64 numbers: a sign, eleven bits of an exponent and fifty-two of a
fraction. Without their sign, the bits of finite numbers are those below infinity. The lemmas
about `Float.Model` come with the whole library only.
-/

namespace FaultDrill.Bits

open Float.Model Float.Model.UnpackedFloat

/-- The bits without the sign. -/
def magnitude (bits : UInt64) : Nat := bits.toNat % Nat.pow 2 63

/-! ## Parts -/

def sign (bits : UInt64) : Sign :=
  Sign.ofBitVec (@unpackSign Format.binary64 bits.toBitVec)

def exponent (bits : UInt64) : BitVec 11 := @unpackExponent Format.binary64 bits.toBitVec

def fraction (bits : UInt64) : BitVec 52 := @unpackMantissa Format.binary64 bits.toBitVec

theorem packComponents_parts (bits : UInt64) :
    packComponents Format.binary64 (sign bits) (exponent bits) (fraction bits) = bits.toBitVec :=
  packComponents_unpackSign_unpackExponent_unpackMantissa _

theorem exponent_toNat (bits : UInt64) :
    (exponent bits).toNat = magnitude bits / Nat.pow 2 52 := by
  rw [exponent, unpackExponent_def, BitVec.extractLsb'_toNat, Nat.shiftRight_eq_div_pow]
  change bits.toNat / 2 ^ 52 % 2 ^ 11 = bits.toNat % 2 ^ 63 / 2 ^ 52
  omega

theorem fraction_toNat (bits : UInt64) :
    (fraction bits).toNat = magnitude bits % Nat.pow 2 52 := by
  rw [fraction, unpackMantissa_def, BitVec.extractLsb'_toNat, Nat.shiftRight_eq_div_pow]
  change bits.toNat / 2 ^ 0 % 2 ^ 52 = bits.toNat % 2 ^ 63 % 2 ^ 52
  omega

theorem sign_eq (bits : UInt64) :
    sign bits = if bits.toNat < Nat.pow 2 63 then .positive else .negative := by
  have bit : @unpackSign Format.binary64 bits.toBitVec = 0#1 ↔ bits.toNat < Nat.pow 2 63 := by
    rw [unpackSign_def, ← BitVec.toNat_inj, BitVec.extractLsb'_toNat, Nat.shiftRight_eq_div_pow]
    change bits.toNat / 2 ^ 63 % 2 ^ 1 = 0 ↔ bits.toNat < 2 ^ 63
    have := bits.toNat_lt
    omega
  simp only [sign, Sign.ofBitVec, bit]

theorem exponent_ne_iff (bits : UInt64) :
    exponent bits ≠ -1#11 ↔ magnitude bits < Decimal.infinityBits := by
  rw [Ne, ← BitVec.toNat_inj, exponent_toNat]
  change ¬ bits.toNat % 2 ^ 63 / 2 ^ 52 = 2047 ↔ bits.toNat % 2 ^ 63 < 0x7FF0000000000000
  omega

/-! ## Numbers and their bits -/

theorem toBits_ofBits {bits : UInt64} (finite : magnitude bits < Decimal.infinityBits) :
    (Float.ofBits bits).toBits = bits := by
  have number : @isNaNBits Format.binary64 bits.toBitVec = false := by
    rw [isNaNBits, decide_eq_false_iff_not]
    exact fun nan => (exponent_ne_iff bits).mpr finite nan.1
  change UInt64.ofBitVec (pack Format.binary64 (unpack Format.binary64 bits.toBitVec)) = bits
  rw [pack_unpack, number]
  rfl

theorem isFinite_iff (value : Float) :
    value.isFinite = true ↔ magnitude value.toBits < Decimal.infinityBits := by
  rw [← exponent_ne_iff]
  change (unpack Format.binary64 value.toBits.toBitVec).isFinite = true ↔ _
  rw [← packComponents_parts]
  simp only [UnpackedFloat.unpack, unpackExponent_packComponents]
  split_ifs with special
  any_goals exact iff_of_true rfl special
  all_goals exact iff_of_false Bool.false_ne_true (not_not_intro special)

theorem isNaN_eq_false {value : Float} (finite : value.isFinite = true) : value.isNaN = false := by
  change (unpack Format.binary64 value.toBits.toBitVec).isFinite = true at finite
  change (unpack Format.binary64 value.toBits.toBitVec).isNaN = false
  cases same : unpack Format.binary64 value.toBits.toBitVec <;>
    simp_all [UnpackedFloat.isFinite, UnpackedFloat.isNaN]

theorem isInf_eq_false {value : Float} (finite : value.isFinite = true) : value.isInf = false := by
  change (unpack Format.binary64 value.toBits.toBitVec).isFinite = true at finite
  change (unpack Format.binary64 value.toBits.toBitVec).isInf = false
  cases same : unpack Format.binary64 value.toBits.toBitVec <;>
    simp_all [UnpackedFloat.isFinite, UnpackedFloat.isInf]

/-! ## Numbers without their sign -/

/-- The bits with the sign of a positive number. -/
def unsigned (bits : UInt64) : UInt64 := bits &&& 0x7FFFFFFFFFFFFFFF

theorem toNat_unsigned (bits : UInt64) : (unsigned bits).toNat = magnitude bits := by
  rw [unsigned, UInt64.toNat_and]
  exact Nat.and_two_pow_sub_one_eq_mod bits.toNat 63

theorem magnitude_unsigned (bits : UInt64) : magnitude (unsigned bits) = magnitude bits := by
  rw [magnitude, toNat_unsigned, magnitude, Nat.mod_mod]

theorem exponent_unsigned (bits : UInt64) : exponent (unsigned bits) = exponent bits := by
  rw [← BitVec.toNat_inj, exponent_toNat, exponent_toNat, magnitude_unsigned]

theorem fraction_unsigned (bits : UInt64) : fraction (unsigned bits) = fraction bits := by
  rw [← BitVec.toNat_inj, fraction_toNat, fraction_toNat, magnitude_unsigned]

theorem sign_unsigned (bits : UInt64) : sign (unsigned bits) = .positive := by
  rw [sign_eq, if_pos]
  rw [toNat_unsigned]
  exact Nat.mod_lt _ (by decide)

theorem shiftRight_eq_one_iff (bits : UInt64) :
    bits >>> 63 = 1 ↔ ¬ bits.toNat < Nat.pow 2 63 := by
  rw [← UInt64.toNat_inj, UInt64.toNat_shiftRight, Nat.shiftRight_eq_div_pow]
  change bits.toNat / 2 ^ 63 = 1 ↔ ¬ bits.toNat < 2 ^ 63
  have := bits.toNat_lt
  omega

/-- The number without its sign. -/
def absolute (value : Float) : Float := Float.ofBits (unsigned value.toBits)

section Absolute

variable {value : Float} (finite : value.isFinite = true)

include finite

theorem toBits_absolute : (absolute value).toBits = unsigned value.toBits :=
  toBits_ofBits (by rwa [magnitude_unsigned, ← isFinite_iff])

theorem isFinite_absolute : (absolute value).isFinite = true := by
  rwa [isFinite_iff, toBits_absolute finite, magnitude_unsigned, ← isFinite_iff]

theorem toBits_absolute_lt : (absolute value).toBits.toNat < Nat.pow 2 63 := by
  rw [toBits_absolute finite, toNat_unsigned]
  exact Nat.mod_lt _ (by decide)

omit finite in
theorem absolute_of_lt (positive : value.toBits.toNat < Nat.pow 2 63) : absolute value = value := by
  rw [absolute, ← UInt64.toNat_inj.mp ((toNat_unsigned _).trans (Nat.mod_eq_of_lt positive)).symm,
    Float.ofBits_toBits]

end Absolute

theorem neg_unpack (sign : Sign) (exponent : BitVec 11) (fraction : BitVec 52) :
    (unpack Format.binary64 (packComponents Format.binary64 sign exponent fraction)).neg =
      unpack Format.binary64 (packComponents Format.binary64 (-sign) exponent fraction) := by
  simp only [UnpackedFloat.unpack, unpackExponent_packComponents, unpackMantissa_packComponents,
    unpackSign_packComponents, Sign.ofBitVec_toBitVec]
  split_ifs <;> rfl

/-- The sign that was taken off a negative number comes back by negation. -/
theorem neg_absolute {value : Float} (finite : value.isFinite = true)
    (negative : ¬ value.toBits.toNat < Nat.pow 2 63) : -absolute value = value := by
  have signed : sign value.toBits = -Sign.positive := by
    rw [sign_eq, if_neg negative]
    rfl
  change Float.ofModel (Float.Model.pack
    (unpack Format.binary64 (absolute value).toBits.toBitVec).neg) = value
  rw [toBits_absolute finite, ← packComponents_parts (unsigned value.toBits), neg_unpack,
    exponent_unsigned, fraction_unsigned, sign_unsigned, ← signed, packComponents_parts]
  exact Float.ofBits_toBits value

end FaultDrill.Bits
