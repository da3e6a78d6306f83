import FaultDrill.Json.Number
import FaultDrill.Json.Printer
import FaultDrill.Proofs.Decimal.Rounding
import FaultDrill.Proofs.Text.Digits

/-!
Numbers that are written and read again. A number text is read by its parts, and the
parts of a shortest decimal stand for the number it was made for.
-/

namespace FaultDrill.Json

open Text (EndsDigits)

/-! ## Parts of a number -/

/-- What can follow a number. -/
def EndsNumber (rest : List Char) : Prop :=
  ∀ char ∈ rest.head?, char.isDigit = false ∧ char ≠ '.' ∧ char ≠ 'e' ∧ char ≠ 'E'

theorem EndsNumber.endsDigits {rest : List Char} (ends : EndsNumber rest) : EndsDigits rest :=
  fun char head => (ends char head).1

theorem readDigits_append {digits rest : List Char} (some_digit : digits ≠ [])
    (digit : ∀ char ∈ digits, char.isDigit = true) (ends : EndsDigits rest) :
    readDigits (digits ++ rest) = some (digits, rest) := by
  have fits : digits.length ≤ (digits ++ rest).length := by simp
  rw [readDigits, Text.takeDigits_append digit fits ends]
  cases digits with
  | nil => contradiction
  | cons _ _ => rfl

/-- Digits without a zero in front of others. -/
inductive IsWhole : List Char → Prop where
  | zero : IsWhole ['0']
  | digits (first : Char) (rest : List Char) : first ≠ '0' →
      (∀ char ∈ first :: rest, char.isDigit = true) → IsWhole (first :: rest)

theorem exists_cons_of_isWhole {whole : List Char} (isWhole : IsWhole whole) :
    ∃ first rest, whole = first :: rest ∧ first ≠ '-' := by
  cases isWhole with
  | zero => exact ⟨'0', [], rfl, by decide⟩
  | digits first rest _ digit =>
      refine ⟨first, rest, rfl, ?_⟩
      rintro rfl
      exact absurd (digit '-' List.mem_cons_self) (by decide)

theorem readWhole_append {whole rest : List Char} (isWhole : IsWhole whole)
    (ends : EndsDigits rest) : readWhole (whole ++ rest) = some (whole, rest) := by
  cases isWhole with
  | zero => rfl
  | digits first others nonzero digit =>
      rw [List.cons_append, readWhole]
      · exact readDigits_append (List.cons_ne_nil _ _) digit ends
      · exact fun _ same => nonzero (List.cons.inj same).1

namespace NumberText

def signText (isNegative : Bool) : List Char := if isNegative then ['-'] else []

def fractionText (digits : List Char) : List Char := if digits = [] then [] else '.' :: digits

/-- A power of ten is written with its sign. -/
def powerText : Option (Bool × List Char) → List Char
  | none => []
  | some (isNegative, digits) => 'e' :: (if isNegative then '-' else '+') :: digits

def written (number : NumberText) : List Char :=
  signText number.isNegative ++ number.whole ++ fractionText number.fraction ++
    powerText number.power

structure IsWellFormed (number : NumberText) : Prop where
  whole : IsWhole number.whole
  fraction : ∀ char ∈ number.fraction, char.isDigit = true
  power : ∀ isNegative digits, number.power = some (isNegative, digits) →
    digits ≠ [] ∧ ∀ char ∈ digits, char.isDigit = true

end NumberText

open NumberText

theorem readFraction_append {digits rest : List Char}
    (digit : ∀ char ∈ digits, char.isDigit = true) (ends : EndsDigits rest)
    (point : rest.head? ≠ some '.') :
    readFraction (fractionText digits ++ rest) = some (digits, rest) := by
  by_cases none : digits = []
  · subst none
    change readFraction rest = _
    cases rest with
    | nil => rfl
    | cons char rest =>
        rw [readFraction]
        exact fun _ same => point (by rw [same]; rfl)
  · rw [fractionText, if_neg none, List.cons_append, readFraction,
      readDigits_append none digit ends]

theorem readPower_append {power : Option (Bool × List Char)} {rest : List Char}
    (digit : ∀ isNegative digits, power = some (isNegative, digits) →
      digits ≠ [] ∧ ∀ char ∈ digits, char.isDigit = true)
    (ends : EndsNumber rest) : readPower (powerText power ++ rest) = some (power, rest) := by
  rcases power with _ | ⟨isNegative, digits⟩
  · change readPower rest = _
    cases rest with
    | nil => rfl
    | cons char rest =>
        obtain ⟨_, _, lower, upper⟩ := ends char rfl
        rw [readPower]
        · exact fun _ same => lower (List.cons.inj same).1
        · exact fun _ same => upper (List.cons.inj same).1
  · obtain ⟨some_digit, digit⟩ := digit _ _ rfl
    have read := readDigits_append some_digit digit ends.endsDigits
    cases isNegative <;> simp [powerText, readPower, readSignedDigits, read]

theorem head?_powerText {power : Option (Bool × List Char)} {rest : List Char} {char : Char}
    (head : (powerText power ++ rest).head? = some char) :
    char = 'e' ∨ rest.head? = some char := by
  rcases power with _ | ⟨isNegative, digits⟩
  · exact .inr head
  · exact .inl (Option.some.inj head).symm

/-- A number is read by its parts. -/
theorem readNumber_written {number : NumberText} (wellFormed : number.IsWellFormed)
    {rest : List Char} (ends : EndsNumber rest) :
    readNumber (number.written ++ rest) = some (number, rest) := by
  obtain ⟨isNegative, whole, fraction, power⟩ := number
  have afterFraction : EndsDigits (powerText power ++ rest) := by
    intro char head
    rcases head?_powerText head with rfl | head
    · rfl
    · exact (ends char head).1
  have noPoint : (powerText power ++ rest).head? ≠ some '.' := by
    intro head
    rcases head?_powerText head with same | head
    · exact absurd same (by decide)
    · exact (ends _ head).2.1 rfl
  have afterWhole : EndsDigits (fractionText fraction ++ (powerText power ++ rest)) := by
    by_cases none : fraction = []
    · rwa [fractionText, if_pos none]
    · intro char head
      rw [fractionText, if_neg none] at head
      cases head
      rfl
  have readsWhole := readWhole_append wellFormed.whole afterWhole
  have readsFraction := readFraction_append wellFormed.fraction afterFraction noPoint
  have readsPower := readPower_append wellFormed.power ends
  simp only [written, List.append_assoc]
  cases isNegative with
  | true => simp [signText, readNumber, readsWhole, readsFraction, readsPower]
  | false =>
      obtain ⟨first, others, rfl, nonminus⟩ := exists_cons_of_isWhole wellFormed.whole
      rw [readNumber]
      · simp only [signText, Bool.false_eq_true, if_false, List.nil_append, readsWhole,
          Option.bind_eq_bind, Option.bind_some, readsFraction, readsPower]
      · exact fun _ same => nonminus (List.cons.inj same).1

/-- A number begins with a digit or a minus sign. -/
theorem exists_cons_written {number : NumberText} (wellFormed : number.IsWellFormed) :
    ∃ first rest, number.written = first :: rest ∧ (first = '-' ∨ first.isDigit = true) := by
  obtain ⟨isNegative, whole, fraction, power⟩ := number
  cases isNegative with
  | true => exact ⟨'-', _, rfl, .inl rfl⟩
  | false =>
      cases wellFormed.whole with
      | zero => exact ⟨'0', _, rfl, .inr rfl⟩
      | digits first rest _ digit => exact ⟨first, _, rfl, .inr (digit first List.mem_cons_self)⟩

/-! ## Whole numbers -/

theorem isWhole_repr (number : Nat) : IsWhole number.repr.toList := by
  by_cases zero : number = 0
  · subst zero
    exact .zero
  · obtain ⟨first, rest, same, nonzero⟩ := Text.exists_cons_repr zero
    rw [same]
    exact .digits first rest nonzero fun _ member => Text.isDigit_of_mem_repr (same ▸ member)

/-- The parts of a whole number. -/
def wholeNumber (isNegative : Bool) (magnitude : Nat) : NumberText :=
  ⟨isNegative, magnitude.repr.toList, [], none⟩

theorem wellFormed_wholeNumber (isNegative : Bool) (magnitude : Nat) :
    (wholeNumber isNegative magnitude).IsWellFormed :=
  ⟨isWhole_repr magnitude, nofun, nofun⟩

theorem written_wholeNumber (isNegative : Bool) (magnitude : Nat) :
    (wholeNumber isNegative magnitude).written =
      signText isNegative ++ magnitude.repr.toList := by
  simp [written, wholeNumber, fractionText, powerText]

theorem toValue_natural (value : UInt64) :
    (wholeNumber false value.toNat).toValue = .natural value := by
  have fits : value.toNat < UInt64.size := value.toNat_lt
  simp only [NumberText.toValue, wholeNumber, Text.decimalValue_repr, Bool.false_eq_true, if_false,
    fits, if_true, UInt64.ofNat_toNat]

theorem toValue_negative {magnitude : Nat} (positive : 0 < magnitude)
    (fits : magnitude ≤ Nat.pow 2 63) :
    (wholeNumber true magnitude).toValue = .negative (-(magnitude : Int)) := by
  simp only [NumberText.toValue, wholeNumber, Text.decimalValue_repr, if_true, positive, fits,
    decide_true, Bool.and_self]

/-! ## Decimals as numbers -/

/-- The parts of a decimal as JSON sets it down. -/
def partsOf (isNegative : Bool) (decimal : Decimal) : NumberText :=
  let digits := decimal.digits.repr.toList
  let place := decimal.exponent + digits.length
  if Layout.json.positional (place - 1) then
    if place ≤ 0 then ⟨isNegative, ['0'], List.replicate place.natAbs '0' ++ digits, none⟩
    else if place.toNat < digits.length then
      ⟨isNegative, digits.take place.toNat, digits.drop place.toNat, none⟩
    else
      ⟨isNegative, digits ++ List.replicate (place.toNat - digits.length) '0', ['0'], none⟩
  else
    ⟨isNegative, digits.take 1, digits.drop 1,
      some (decide (place - 1 < 0), (Text.padded 2 (place - 1).natAbs).toList)⟩

theorem repr_ne_nil (number : Nat) : number.repr.toList ≠ [] := by
  rw [Nat.toList_repr]
  exact Nat.toDigits_ne_nil

theorem written_partsOf (isNegative : Bool) (decimal : Decimal) :
    (partsOf isNegative decimal).written =
      signText isNegative ++ Layout.json.renderDecimal decimal := by
  have someDigit := repr_ne_nil decimal.digits
  rw [partsOf, Layout.renderDecimal]
  generalize decimal.digits.repr.toList = digits at *
  generalize decimal.exponent + digits.length = place
  split_ifs with positional small point
  · simp [written, fractionText, powerText, Layout.withPoint, small, someDigit]
  · simp [written, fractionText, powerText, Layout.withPoint, small, point]
  · simp [written, fractionText, powerText, Layout.withPoint, small, point, Layout.json]
  · have sign : ∀ digits, powerText (some (decide (place - 1 < 0), digits)) =
        'e' :: ((if place - 1 < 0 then ['-'] else ['+']) ++ digits) := by
      intro digits
      by_cases negative : place - 1 < 0 <;> simp only [powerText, negative] <;> rfl
    rw [written, sign]
    rcases digits with _ | ⟨first, _ | ⟨second, rest⟩⟩
    · contradiction
    · simp [fractionText, Layout.withExponent, Layout.json]
    · simp [fractionText, Layout.withExponent, Layout.json]

/-- A decimal without digits is written only if it is zero. -/
theorem wellFormed_partsOf (isNegative : Bool) {decimal : Decimal}
    (sound : decimal.digits ≠ 0 ∨ decimal = ⟨0, 0⟩) :
    (partsOf isNegative decimal).IsWellFormed := by
  have zero (count : Nat) : ∀ char ∈ List.replicate count '0', char.isDigit = true := by
    intro char member
    rw [List.eq_of_mem_replicate member]
    rfl
  rcases sound with nonzero | rfl
  · obtain ⟨first, rest, same, nonzero⟩ := Text.exists_cons_repr nonzero
    have digit : ∀ char ∈ first :: rest, char.isDigit = true :=
      fun _ member => Text.isDigit_of_mem_repr (same ▸ member)
    rw [partsOf, same]
    generalize decimal.exponent + (first :: rest).length = place
    split_ifs with positional small point
    · exact ⟨.zero, List.forall_mem_append.mpr ⟨zero _, digit⟩, nofun⟩
    · obtain ⟨count, isCount⟩ := Int.eq_succ_of_zero_lt (not_le.mp small)
      rw [isCount]
      refine ⟨.digits first (rest.take count) nonzero ?_,
        fun char member => digit char (List.mem_of_mem_drop member), nofun⟩
      exact fun char member => digit char (List.mem_of_mem_take (i := count + 1) member)
    · refine ⟨.digits first (rest ++ _) nonzero ?_, zero 1, nofun⟩
      exact List.forall_mem_append.mpr ⟨digit, zero _⟩
    · refine ⟨.digits first [] nonzero ?_, fun char member => digit char (.tail _ member), ?_⟩
      · exact fun char member => digit char (List.mem_of_mem_take (i := 1) member)
      · rintro _ _ ⟨⟩
        refine ⟨?_, fun _ => Text.isDigit_of_mem_padded⟩
        rw [Text.toList_padded]
        exact fun none => repr_ne_nil _ (List.append_eq_nil_iff.mp none).2
  · have parts : partsOf isNegative ⟨0, 0⟩ = ⟨isNegative, ['0'], ['0'], none⟩ := rfl
    rw [parts]
    exact ⟨.zero, zero 1, nofun⟩

theorem isNegative_partsOf (isNegative : Bool) (decimal : Decimal) :
    (partsOf isNegative decimal).isNegative = isNegative := by
  rw [partsOf]
  split_ifs <;> rfl

theorem value_partsOf (isNegative : Bool) (decimal : Decimal) :
    (partsOf isNegative decimal).decimal.value = decimal.value := by
  have value := Text.decimalValue_repr decimal.digits
  have someDigit := List.length_pos_of_ne_nil (repr_ne_nil decimal.digits)
  rw [partsOf, Decimal.value, Decimal.value]
  generalize decimal.digits.repr.toList = digits at *
  generalize decimal.digits = number at *
  generalize decimal.exponent = exponent at *
  -- The point stands before all digits, among them or behind them, or there is a power of ten.
  split_ifs with positional small point
  · have digits_eq : Text.decimalValue (['0'] ++
        (List.replicate (exponent + digits.length).natAbs '0' ++ digits)) = number := by
      rw [Text.decimalValue_append, Text.decimalValue_append, Text.decimalValue_zeros, value]
      simp [Text.decimalValue, Text.valueOf, Text.digitValue?]
    have exponent_eq : -((List.replicate (exponent + digits.length).natAbs '0' ++
        digits).length : Int) = exponent := by
      rw [List.length_append, List.length_replicate]
      omega
    simp only [NumberText.decimal, digits_eq, Int.zero_sub, exponent_eq]
  · have digits_eq : Text.decimalValue (digits.take (exponent + digits.length).toNat ++
        digits.drop (exponent + digits.length).toNat) = number := by
      rw [List.take_append_drop, value]
    have exponent_eq :
        -((digits.drop (exponent + digits.length).toNat).length : Int) = exponent := by
      rw [List.length_drop]
      omega
    simp only [NumberText.decimal, digits_eq, Int.zero_sub, exponent_eq]
  · obtain ⟨zeros, rfl⟩ := Int.eq_ofNat_of_zero_le (by omega : 0 ≤ exponent)
    have zeros_eq : ((zeros : Int) + digits.length).toNat - digits.length = zeros := by omega
    have digits_eq : Text.decimalValue (digits ++ List.replicate zeros '0' ++ ['0']) =
        number * 10 ^ zeros * 10 := by
      rw [Text.decimalValue_append, Text.decimalValue_append, Text.decimalValue_zeros, value,
        List.length_replicate]
      rfl
    simp only [NumberText.decimal, zeros_eq, digits_eq]
    push_cast
    simp
  · have digits_eq : Text.decimalValue (digits.take 1 ++ digits.drop 1) = number := by
      rw [List.take_append_drop, value]
    have exponent_eq : (if decide (exponent + digits.length - 1 < 0) = true then
        -((exponent + digits.length - 1).natAbs : Int) else (exponent + digits.length - 1).natAbs) -
          ((digits.drop 1).length : Int) = exponent := by
      rw [List.length_drop]
      split_ifs with negative <;> simp at negative <;> omega
    simp only [NumberText.decimal, digits_eq, Text.decimalValue_padded, exponent_eq]

theorem toValue_partsOf (isNegative : Bool) (decimal : Decimal) :
    (partsOf isNegative decimal).toValue = (partsOf isNegative decimal).toFloatValue := by
  have someDigit := repr_ne_nil decimal.digits
  rw [NumberText.toValue]
  split
  · rename_i noFraction noPower
    rw [partsOf] at noFraction noPower
    generalize decimal.digits.repr.toList = digits at *
    split_ifs at noFraction noPower with positional small point
    · simp [someDigit] at noFraction
    · simp at noFraction
      omega
  · rfl

/-! ## Finite numbers -/

/-- The decimal that is written for a number without its sign. -/
def decimalOf (magnitude : Float) : Decimal :=
  if magnitude.toBits = 0 then ⟨0, 0⟩ else Decimal.shortest .toEven magnitude

theorem toFloat_decimalOf {magnitude : Float} (finite : magnitude.isFinite = true)
    (positive : magnitude.toBits.toNat < Nat.pow 2 63) :
    (decimalOf magnitude).toFloat = magnitude := by
  rw [decimalOf]
  split_ifs with zero
  · rw [← Float.ofBits_toBits magnitude, zero]
    rfl
  · exact Decimal.toFloat_shortest .toEven finite positive

theorem sound_decimalOf {magnitude : Float} (finite : magnitude.isFinite = true)
    (positive : magnitude.toBits.toNat < Nat.pow 2 63) :
    (decimalOf magnitude).digits ≠ 0 ∨ decimalOf magnitude = ⟨0, 0⟩ := by
  by_cases zero : magnitude.toBits = 0
  · exact .inr (if_pos zero)
  · refine .inl fun none => zero ?_
    rw [← toFloat_decimalOf finite positive, Decimal.toFloat, if_pos none]
    exact Bits.toBits_ofBits (by decide)

/-- The parts of the text of a finite number. -/
def numberOf (value : Float) : NumberText :=
  partsOf (decide (value.toBits >>> 63 = 1)) (decimalOf (Bits.absolute value))

section Finite

variable {value : Float} (finite : value.isFinite = true)

include finite

theorem render_json : Layout.json.render value =
    (if value.toBits >>> 63 = 1 then "-" else "") ++
      String.ofList (Layout.json.renderDecimal (decimalOf (Bits.absolute value))) := by
  rw [Layout.render, if_neg (Bool.eq_false_iff.mp (Bits.isNaN_eq_false finite)),
    if_neg (Bool.eq_false_iff.mp (Bits.isInf_eq_false finite)), decimalOf]
  change (if (Bits.absolute value).toBits = 0 then _ else _) = _
  split_ifs <;> rfl

theorem toList_numberText : (numberText value).toList = (numberOf value).written := by
  have spelled : ¬ (value.isNaN || value.isInf) = true := by
    rw [Bits.isNaN_eq_false finite, Bits.isInf_eq_false finite]
    exact Bool.false_ne_true
  rw [numberOf, written_partsOf, numberText, if_neg spelled, render_json finite,
    String.toList_append, String.toList_ofList]
  by_cases negative : value.toBits >>> 63 = 1 <;> simp [negative, signText]

theorem wellFormed_numberOf : (numberOf value).IsWellFormed :=
  wellFormed_partsOf _
    (sound_decimalOf (Bits.isFinite_absolute finite) (Bits.toBits_absolute_lt finite))

/-- A finite number is read as it was. -/
theorem toValue_numberOf : (numberOf value).toValue = .float value := by
  have magnitude : (numberOf value).decimal.toFloat = Bits.absolute value := by
    rw [numberOf, Decimal.toFloat_congr (value_partsOf _ _)]
    exact toFloat_decimalOf (Bits.isFinite_absolute finite) (Bits.toBits_absolute_lt finite)
  have sign : (numberOf value).isNegative = decide (value.toBits >>> 63 = 1) :=
    isNegative_partsOf _ _
  have whole : (numberOf value).toValue = (numberOf value).toFloatValue := toValue_partsOf _ _
  rw [whole, NumberText.toFloatValue, magnitude,
    Bits.isInf_eq_false (Bits.isFinite_absolute finite), sign]
  by_cases negative : value.toBits >>> 63 = 1
  · rw [decide_eq_true negative]
    rw [Bits.shiftRight_eq_one_iff] at negative
    exact congrArg Value.float (Bits.neg_absolute finite negative)
  · rw [decide_eq_false negative]
    rw [Bits.shiftRight_eq_one_iff, not_not] at negative
    exact congrArg Value.float (Bits.absolute_of_lt negative)

end Finite

end FaultDrill.Json
