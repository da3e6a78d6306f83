import FaultDrill.Decimal.Shortest
import FaultDrill.Proofs.Decimal.Bits
import Mathlib.Algebra.Order.Field.Rat
import Mathlib.Tactic.FieldSimp
import Mathlib.Tactic.NormNum
import Mathlib.Tactic.Positivity
import Mathlib.Tactic.Ring

/-!
The number nearest to a decimal depends on what the decimal stands for and not on how it
is set down. A decimal that stands for a binary64 number is read as that number.
-/

namespace FaultDrill

/-- The number a decimal stands for. -/
def Decimal.value (decimal : Decimal) : ℚ := decimal.digits * 10 ^ decimal.exponent

def Binary.value (binary : Binary) : ℚ := binary.significand * 2 ^ binary.exponent

namespace Decimal

/-! ## Quotients that are the same -/

theorem roundToEven_scale (numerator denominator : Nat) {scale : Nat} (positive : 0 < scale) :
    roundToEven (numerator * scale) (denominator * scale) = roundToEven numerator denominator := by
  have order : compare (2 * (numerator % denominator * scale)) (denominator * scale) =
      compare (2 * (numerator % denominator)) denominator := by
    rw [← Nat.mul_assoc]
    simp only [Nat.compare_eq_ite_lt, Nat.mul_lt_mul_right positive]
  rw [roundToEven, Nat.mul_div_mul_right _ _ positive, Nat.mul_mod_mul_right, order]
  rfl

theorem nearestBits_scale (numerator denominator : Nat) {scale : Nat} (positive : 0 < scale) :
    nearestBits (numerator * scale) (denominator * scale) = nearestBits numerator denominator := by
  simp only [nearestBits, Nat.mul_right_comm _ scale, Nat.mul_div_mul_right _ _ positive,
    roundToEven_scale _ _ positive]

theorem nearestBits_congr {numerator denominator numerator' denominator' : Nat}
    (positive : 0 < denominator) (positive' : 0 < denominator')
    (same : numerator * denominator' = numerator' * denominator) :
    nearestBits numerator denominator = nearestBits numerator' denominator' :=
  calc
    nearestBits numerator denominator
        = nearestBits (numerator * denominator') (denominator * denominator') :=
      (nearestBits_scale _ _ positive').symm
    _ = nearestBits (numerator' * denominator) (denominator' * denominator) := by
      rw [same, Nat.mul_comm denominator]
    _ = nearestBits numerator' denominator' := nearestBits_scale _ _ positive

/-! ## Numbers that need no rounding -/

theorem roundToEven_mul (quotient : Nat) {denominator : Nat} (positive : 0 < denominator) :
    roundToEven (quotient * denominator) denominator = quotient := by
  have order : compare 0 denominator = .lt := Nat.compare_eq_lt.mpr positive
  rw [roundToEven, Nat.mul_mod_left, Nat.mul_zero, order, Nat.mul_div_cancel _ positive]

theorem log2_sub {digits shift : Nat} (short : digits < 2 ^ 53)
    (normal : shift = 0 ∨ 2 ^ 52 ≤ digits) : (digits * 2 ^ shift).log2 - 52 = shift := by
  rcases normal with rfl | normal
  · rw [Nat.pow_zero, Nat.mul_one]
    by_cases zero : digits = 0
    · rw [zero]
      rfl
    · have := (Nat.log2_lt zero).mpr short
      omega
  · have scale := Nat.two_pow_pos shift
    have logarithm : (digits * 2 ^ shift).log2 = 52 + shift := by
      rw [Nat.log2_eq_iff (Nat.mul_ne_zero (by omega) (by omega))]
      constructor
      · rw [Nat.pow_add]
        exact Nat.mul_le_mul_right _ normal
      · rw [Nat.add_right_comm, Nat.pow_add]
        exact Nat.mul_lt_mul_of_pos_right short scale
    omega

/-- A number of at most 53 binary digits is its own nearest. -/
theorem nearestBits_exact {numerator denominator digits shift : Nat} (positive : 0 < denominator)
    (exact : numerator * Nat.pow 2 1074 = digits * Nat.pow 2 shift * denominator)
    (short : digits < Nat.pow 2 53) (normal : shift = 0 ∨ Nat.pow 2 52 ≤ digits) :
    nearestBits numerator denominator = min (shift * Nat.pow 2 52 + digits) infinityBits := by
  have units : numerator * Nat.pow 2 1074 / denominator = digits * Nat.pow 2 shift := by
    rw [exact, Nat.mul_div_cancel _ positive]
  have logarithm : (digits * Nat.pow 2 shift).log2 - 52 = shift := log2_sub short normal
  have rounded : roundToEven (digits * Nat.pow 2 shift * denominator)
      (denominator * Nat.pow 2 shift) = digits := by
    rw [Nat.mul_comm denominator, Nat.mul_assoc]
    exact roundToEven_mul digits (Nat.mul_pos (Nat.two_pow_pos shift) positive)
  simp only [nearestBits, units, logarithm]
  rw [exact, rounded]

/-! ## Decimals of the same value -/

theorem fraction_pos (decimal : Decimal) : 0 < decimal.fraction.2 :=
  Nat.pow_pos (by decide)

theorem value_eq_fraction (decimal : Decimal) :
    decimal.value = decimal.fraction.1 / decimal.fraction.2 := by
  obtain ⟨digits, exponent⟩ := decimal
  cases exponent with
  | ofNat power => simp [value, fraction]
  | negSucc power => simp [value, fraction, zpow_negSucc, div_eq_mul_inv]

theorem nearestBits_eq {numerator denominator units : Nat}
    (counted : numerator * Nat.pow 2 1074 = units) :
    nearestBits numerator denominator =
      min (((units / denominator).log2 - 52) * 2 ^ 52 +
        roundToEven units (denominator * 2 ^ ((units / denominator).log2 - 52))) infinityBits := by
  rw [nearestBits, counted]
  rfl

/-- What lies beyond the greatest number is infinite. -/
theorem nearestBits_large {numerator denominator units power : Nat} (positive : 0 < denominator)
    (counted : numerator * Nat.pow 2 1074 = units) (high : 2099 ≤ power)
    (large : 2 ^ power * denominator ≤ units) :
    nearestBits numerator denominator = infinityBits := by
  have quotient : 2 ^ power ≤ units / denominator := (Nat.le_div_iff_mul_le positive).mpr large
  have logarithm : power ≤ (units / denominator).log2 := by
    have := Nat.two_pow_pos power
    rwa [Nat.le_log2 (by omega)]
  rw [nearestBits_eq counted]
  apply Nat.min_eq_right
  change 2047 * 2 ^ 52 ≤ _
  omega

/-- What lies below half the least positive number is zero. -/
theorem nearestBits_small {numerator denominator units : Nat}
    (counted : numerator * Nat.pow 2 1074 = units) (small : 2 * units < denominator) :
    nearestBits numerator denominator = 0 := by
  have quotient : units / denominator = 0 := Nat.div_eq_of_lt (by omega)
  have remainder : units % denominator = units := Nat.mod_eq_of_lt (by omega)
  have rounded : roundToEven units denominator = 0 := by
    rw [roundToEven, quotient, remainder, Nat.compare_eq_lt.mpr small]
  rw [nearestBits_eq counted, quotient, Nat.log2_zero, Nat.pow_zero, Nat.mul_one, rounded]
  rfl

theorem two_pow_le_ten_pow (place : Nat) : 2 ^ (3 * place) ≤ 10 ^ place := by
  rw [Nat.pow_mul]
  exact Nat.pow_le_pow_left (by decide) place

theorem nearestBits_fraction_large {digits : Nat} {exponent : Int} (nonzero : digits ≠ 0)
    (large : 400 < exponent) :
    nearestBits (fraction ⟨digits, exponent⟩).1 (fraction ⟨digits, exponent⟩).2 =
      infinityBits := by
  obtain ⟨place, rfl⟩ := Int.eq_ofNat_of_zero_le (by omega : 0 ≤ exponent)
  -- With the literal in its place, checking the goal would compute the power.
  obtain ⟨least, isLeast⟩ : ∃ least, 1074 = least := ⟨_, rfl⟩
  refine nearestBits_large (fraction_pos _) (congrArg _ (congrArg _ isLeast))
    (by omega : 2099 ≤ 3 * place + least) ?_
  have denominator : (fraction ⟨digits, (place : Int)⟩).2 = 1 := by simp [fraction]
  have numerator : (fraction ⟨digits, (place : Int)⟩).1 = digits * 10 ^ place := by
    simp [fraction]
  rw [denominator, numerator, Nat.mul_one, Nat.pow_add]
  refine Nat.mul_le_mul_right _ ?_
  calc
    2 ^ (3 * place) ≤ 1 * 10 ^ place := by
      rw [Nat.one_mul]
      exact two_pow_le_ten_pow place
    _ ≤ digits * 10 ^ place := Nat.mul_le_mul_right _ (Nat.pos_of_ne_zero nonzero)

theorem nearestBits_fraction_small {digits : Nat} {exponent : Int}
    (small : exponent + digits.log2 < -400) :
    nearestBits (fraction ⟨digits, exponent⟩).1 (fraction ⟨digits, exponent⟩).2 = 0 := by
  obtain ⟨place, rfl⟩ := Int.exists_eq_neg_ofNat (by omega : exponent ≤ 0)
  obtain ⟨least, isLeast⟩ : ∃ least, 1074 = least := ⟨_, rfl⟩
  refine nearestBits_small (congrArg _ (congrArg _ isLeast)) ?_
  have denominator : (fraction ⟨digits, -(place : Int)⟩).2 = 10 ^ place := by simp [fraction]
  have numerator : (fraction ⟨digits, -(place : Int)⟩).1 = digits := by simp [fraction]
  have short : digits < 2 ^ (digits.log2 + 1) := Nat.lt_log2_self
  rw [denominator, numerator]
  calc
    2 * (digits * 2 ^ least) < 2 * (2 ^ (digits.log2 + 1) * 2 ^ least) := by
      gcongr
    _ = 2 ^ (1 + (digits.log2 + 1 + least)) := by
      rw [Nat.pow_add 2 1, Nat.pow_add 2 (digits.log2 + 1), Nat.pow_one]
    _ ≤ 2 ^ (3 * place) := Nat.pow_le_pow_right (by decide) (by omega)
    _ ≤ 10 ^ place := two_pow_le_ten_pow place

/-- The guards of the reader decide nothing. -/
theorem toFloat_eq (decimal : Decimal) :
    decimal.toFloat =
      Float.ofBits (UInt64.ofNat (nearestBits decimal.fraction.1 decimal.fraction.2)) := by
  rw [toFloat]
  split_ifs with zero large small
  · have numerator : decimal.fraction.1 = 0 := by rw [fraction, zero, Nat.zero_mul]
    rw [numerator, nearestBits_small (Nat.zero_mul _) decimal.fraction_pos]
    rfl
  · rw [nearestBits_fraction_large zero large]
  · rw [nearestBits_fraction_small small]
    rfl
  · rfl

theorem toFloat_congr {decimal decimal' : Decimal} (same : decimal.value = decimal'.value) :
    decimal.toFloat = decimal'.toFloat := by
  have positive := decimal.fraction_pos
  have positive' := decimal'.fraction_pos
  rw [value_eq_fraction, value_eq_fraction, div_eq_div_iff (by positivity) (by positivity)] at same
  rw [toFloat_eq, toFloat_eq, nearestBits_congr positive positive' (by exact_mod_cast same)]

end Decimal

/-! ## Numbers as decimals -/

namespace Binary

/-- Bits are a significand and a power of two in one number. -/
theorem exists_shift (bits : UInt64) :
    ∃ shift : Nat, (ofBits bits).exponent = (shift : Int) - 1074 ∧
      (ofBits bits).significand < 2 ^ 53 ∧
      (shift = 0 ∨ 2 ^ 52 ≤ (ofBits bits).significand) ∧
      shift * 2 ^ 52 + (ofBits bits).significand = Bits.magnitude bits := by
  have field : ((bits >>> 52) &&& 0x7FF).toNat = bits.toNat / 2 ^ 52 % 2 ^ 11 := by
    rw [UInt64.toNat_and, UInt64.toNat_shiftRight, Nat.shiftRight_eq_div_pow]
    exact Nat.and_two_pow_sub_one_eq_mod _ 11
  have fraction : (bits &&& 0xFFFFFFFFFFFFF).toNat = bits.toNat % 2 ^ 52 := by
    rw [UInt64.toNat_and]
    exact Nat.and_two_pow_sub_one_eq_mod _ 52
  simp only [ofBits, field, fraction]
  change ∃ shift : Nat, _ ∧ _ ∧ _ ∧ _ = bits.toNat % 2 ^ 63
  -- Below the least normal number the bits are the significand; above, its leading digit is
  -- the last step of the exponent.
  split_ifs with subnormal
  · refine ⟨0, rfl, ?_, .inl rfl, ?_⟩
    · change bits.toNat % 2 ^ 52 < _
      omega
    · change 0 * 2 ^ 52 + bits.toNat % 2 ^ 52 = _
      omega
  · refine ⟨bits.toNat / 2 ^ 52 % 2 ^ 11 - 1, ?_, ?_, .inr ?_, ?_⟩
    · change ((bits.toNat / 2 ^ 52 % 2 ^ 11 : Nat) : Int) - 1075 = _
      omega
    · change 2 ^ 52 + bits.toNat % 2 ^ 52 < _
      omega
    · exact Nat.le_add_right _ _
    · change _ * 2 ^ 52 + (2 ^ 52 + bits.toNat % 2 ^ 52) = _
      omega

theorem toDecimal_value (binary : Binary) : binary.toDecimal.value = binary.value := by
  obtain ⟨significand, exponent⟩ := binary
  cases exponent with
  | ofNat power =>
      have whole : ¬ Int.ofNat power < 0 := by simp
      simp only [toDecimal, whole, if_false, Decimal.value, value]
      simp
  | negSucc power =>
      have ten : (10 : ℚ) ^ (power + 1) = 5 ^ (power + 1) * 2 ^ (power + 1) := by
        rw [← mul_pow]
        norm_num
      simp only [toDecimal, Int.negSucc_lt_zero, if_true, Decimal.value, value, zpow_negSucc, ten]
      simp only [Nat.pow_eq, Int.natAbs_negSucc]
      push_cast
      field_simp

end Binary

namespace Decimal

/-- A decimal that stands for a number is read as that number. -/
theorem toFloat_of_value {decimal : Decimal} {value : Float} (finite : value.isFinite = true)
    (positive : value.toBits.toNat < Nat.pow 2 63)
    (same : decimal.value = (Binary.ofFloat value).value) : decimal.toFloat = value := by
  obtain ⟨shift, exponent, short, normal, whole⟩ := Binary.exists_shift value.toBits
  have exact : decimal.fraction.1 * Nat.pow 2 1074 =
      (Binary.ofBits value.toBits).significand * Nat.pow 2 shift * decimal.fraction.2 := by
    have denominator : (decimal.fraction.2 : ℚ) ≠ 0 := by
      exact_mod_cast decimal.fraction_pos.ne'
    obtain ⟨least, isLeast⟩ : ∃ least, 1074 = least := ⟨_, rfl⟩
    have least_cast : (1074 : Int) = least := congrArg Nat.cast isLeast
    rw [value_eq_fraction, Binary.value, Binary.ofFloat, exponent, least_cast,
      div_eq_iff denominator, zpow_sub₀ two_ne_zero, zpow_natCast, zpow_natCast] at same
    rw [← Nat.cast_inj (R := ℚ), isLeast]
    simp only [Nat.pow_eq]
    push_cast
    rw [same]
    field_simp
  have bits : min (shift * Nat.pow 2 52 + (Binary.ofBits value.toBits).significand) infinityBits =
      value.toBits.toNat := by
    rw [Bits.isFinite_iff] at finite
    have magnitude : Bits.magnitude value.toBits = value.toBits.toNat := Nat.mod_eq_of_lt positive
    rw [← magnitude, ← whole]
    exact Nat.min_eq_left (whole.trans_le finite.le)
  rw [toFloat_eq, nearestBits_exact decimal.fraction_pos exact short normal, bits,
    UInt64.ofNat_toNat, Float.ofBits_toBits]

theorem stripZeros_value (decimal : Decimal) (count : Nat) :
    (decimal.stripZeros count).value = decimal.value := by
  induction count generalizing decimal with
  | zero => rfl
  | succ count induction =>
      rw [stripZeros]
      split_ifs with trailing
      · rw [induction]
        obtain ⟨digits, exponent⟩ := decimal
        obtain ⟨tens, rfl⟩ := Nat.dvd_of_mod_eq_zero trailing.2
        simp only [value, zpow_add₀ (by norm_num : (10 : ℚ) ≠ 0), zpow_one,
          Nat.mul_div_cancel_left _ (by decide : 0 < 10)]
        push_cast
        ring
      · rfl

theorem toFloat_of_onGrid {tie : Tie} {value : Float} {power : Int} {decimal : Decimal}
    (found : onGrid tie value power = some decimal) : decimal.toFloat = value := by
  have reads {candidate : Decimal} (same : candidate.readsBackAs value = true) :
      candidate.toFloat = value := Float.toBits_inj.mp (eq_of_beq same)
  rw [onGrid] at found
  dsimp only at found
  split at found
  · rename_i below above
    cases found
    split_ifs
    · exact reads above
    · exact reads below
  · rename_i below _
    cases found
    exact reads below
  · rename_i _ above
    cases found
    exact reads above
  · cases found

/-- The shortest decimal of a number is read as the number. -/
theorem toFloat_shortest (tie : Tie) {value : Float} (finite : value.isFinite = true)
    (positive : value.toBits.toNat < Nat.pow 2 63) : (shortest tie value).toFloat = value := by
  rw [shortest, toFloat_congr (stripZeros_value _ _)]
  -- Whatever the search finds has been read back; if it finds nothing, all digits are written.
  cases found : (List.range 17).findSome? fun count =>
      onGrid tie value ((Binary.ofFloat value).decimalPlace - (count + 1 : Nat)) with
  | none => exact toFloat_of_value finite positive (Binary.toDecimal_value _)
  | some decimal =>
      obtain ⟨_, _, found⟩ := List.exists_of_findSome?_eq_some found
      exact toFloat_of_onGrid found

end Decimal

end FaultDrill
