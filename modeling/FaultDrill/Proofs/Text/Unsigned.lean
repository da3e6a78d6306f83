import FaultDrill.Proofs.Steps
import FaultDrill.Proofs.Text.Digits
import FaultDrill.Text.Unsigned

/-!
Which texts stand for a whole number, and for which one.
-/

namespace FaultDrill.Text

/-- Decimal digits of a number, one at least. There may be zeros in front. -/
structure IsNumeral (digits : List Char) (number : Nat) : Prop where
  nonempty : digits ≠ []
  onlyDigits : ∀ char ∈ digits, char.isDigit = true
  value : decimalValue digits = number

/-- Digits of a number, or a plus sign and the digits. -/
def StandsFor (text : List Char) (number : Nat) : Prop :=
  ∃ digits, (text = digits ∨ text = '+' :: digits) ∧ IsNumeral digits number

theorem IsNumeral.notMem {digits : List Char} {number : Nat} {char : Char}
    (numeral : IsNumeral digits number) (noDigit : char.isDigit = false) : char ∉ digits := by
  intro member
  cases noDigit.symm.trans (numeral.onlyDigits char member)

theorem decimalValue_cons (char : Char) (rest : List Char) :
    decimalValue (char :: rest) =
      (digitValue? char).getD 0 * 10 ^ rest.length + decimalValue rest := by
  have first : decimalValue [char] = (digitValue? char).getD 0 := by simp [decimalValue, valueOf]
  rw [← first]
  exact decimalValue_append [char] rest

variable {limit number : Nat}

/-- The value of what has been read stays below the limit, and what follows can only make
it greater. -/
theorem readUnsigned_eq_ok {value : Nat} (below : value < limit) {text : List Char} :
    readUnsigned limit value text = .ok number ↔
      (∀ char ∈ text, char.isDigit = true) ∧
        value * 10 ^ text.length + decimalValue text = number ∧ number < limit := by
  induction text generalizing value with
  | nil =>
      simp only [readUnsigned, Except.ok.injEq, List.not_mem_nil, false_imp_iff, implies_true,
        true_and, List.length_nil, pow_zero, mul_one]
      change value = number ↔ value + 0 = number ∧ number < limit
      omega
  | cons char rest induction =>
      rw [readUnsigned, List.forall_mem_cons, List.length_cons, decimalValue_cons]
      cases isDigit : char.isDigit with
      | false => simp [digitValue?, isDigit]
      | true =>
          have digit : digitValue? char = some (char.toNat - '0'.toNat) := by
            rw [digitValue?, isDigit, if_pos rfl]
          rw [digit, Option.getD_some]
          generalize char.toNat - '0'.toNat = digit
          have shifted : value * 10 ^ (rest.length + 1) +
              (digit * 10 ^ rest.length + decimalValue rest) =
              (value * 10 + digit) * 10 ^ rest.length + decimalValue rest := by
            rw [Nat.pow_succ]
            ring
          rw [shifted]
          dsimp only
          split
          · rename_i fits
            rw [induction fits]
            simp only [true_and]
          · rename_i tooLarge
            have grows : value * 10 + digit ≤ (value * 10 + digit) * 10 ^ rest.length :=
              Nat.le_mul_of_pos_right _ (Nat.pow_pos (by decide))
            constructor
            · nofun
            · rintro ⟨_, same, small⟩
              omega

theorem readUnsigned_zero_eq_ok (positive : 0 < limit) {digits : List Char}
    (nonempty : digits ≠ []) :
    readUnsigned limit 0 digits = .ok number ↔ IsNumeral digits number ∧ number < limit := by
  rw [readUnsigned_eq_ok positive, Nat.zero_mul, Nat.zero_add]
  constructor
  · rintro ⟨onlyDigits, value, small⟩
    exact ⟨⟨nonempty, onlyDigits, value⟩, small⟩
  · rintro ⟨numeral, small⟩
    exact ⟨numeral.onlyDigits, numeral.value, small⟩

theorem unsigned_eq_ok (positive : 0 < limit) {text : String} :
    unsigned limit text = .ok number ↔ StandsFor text.toList number ∧ number < limit := by
  have noDigit : '+'.isDigit = false := by decide
  rw [unsigned]
  split
  · rename_i empty
    rw [empty]
    constructor
    · nofun
    · rintro ⟨⟨digits, rfl | other, numeral⟩, _⟩
      · exact absurd rfl numeral.nonempty
      · cases other
  · rename_i sign
    rw [sign]
    constructor
    · nofun
    · rintro ⟨⟨digits, rfl | same, numeral⟩, _⟩
      · exact absurd List.mem_cons_self (numeral.notMem noDigit)
      · cases same
        exact absurd rfl numeral.nonempty
  · rename_i digits more signed
    have nonempty : digits ≠ [] := fun empty => more empty
    rw [readUnsigned_zero_eq_ok positive nonempty, signed]
    constructor
    · rintro ⟨numeral, small⟩
      exact ⟨⟨digits, .inr rfl, numeral⟩, small⟩
    · rintro ⟨⟨others, rfl | same, numeral⟩, small⟩
      · exact absurd List.mem_cons_self (numeral.notMem noDigit)
      · cases same
        exact ⟨numeral, small⟩
  · rename_i nonempty _ unsigned
    rw [readUnsigned_zero_eq_ok positive nonempty]
    constructor
    · rintro ⟨numeral, small⟩
      exact ⟨⟨_, .inl rfl, numeral⟩, small⟩
    · rintro ⟨⟨others, rfl | signed, numeral⟩, small⟩
      · exact ⟨numeral, small⟩
      · exact absurd signed (unsigned others)

theorem unsigned64_eq_ok {text : String} {number : UInt64} :
    unsigned64 text = .ok number ↔ StandsFor text.toList number.toNat := by
  have read (value : Nat) : unsigned UInt64.size text = .ok value ↔
      StandsFor text.toList value ∧ value < UInt64.size := unsigned_eq_ok (by decide)
  constructor
  · intro done
    obtain ⟨value, found, rfl⟩ := map_eq_ok.mp done
    obtain ⟨stands, small⟩ := (read value).mp found
    rwa [UInt64.toNat_ofNat_of_lt' small]
  · intro stands
    have found := (read number.toNat).mpr ⟨stands, number.toNat_lt⟩
    exact map_eq_ok.mpr ⟨number.toNat, found, UInt64.ofNat_toNat⟩

end FaultDrill.Text
