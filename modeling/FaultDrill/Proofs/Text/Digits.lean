import Mathlib.Tactic.IntervalCases
import Mathlib.Tactic.Ring
import FaultDrill.Text.Reader

/-!
Numbers written by decimal digits.
-/

namespace FaultDrill.Text

theorem isDigit_iff {char : Char} :
    char.isDigit = true ↔ 48 ≤ char.toNat ∧ char.toNat ≤ 57 := by
  change (decide (char.val ≥ '0'.val) && decide (char.val ≤ '9'.val)) = true ↔ _
  simp only [Bool.and_eq_true, decide_eq_true_eq, ge_iff_le, UInt32.le_iff_toNat_le]
  exact Iff.rfl

theorem toList_pushn (text : String) (char : Char) (count : Nat) :
    (text.pushn char count).toList = text.toList ++ List.replicate count char := by
  rw [String.pushn_eq_repeat_push]
  induction count with
  | zero => simp [Nat.repeat]
  | succ count induction => simp [Nat.repeat, induction, List.replicate_succ']

theorem isDigit_of_mem_repr {number : Nat} {char : Char} (member : char ∈ number.repr.toList) :
    char.isDigit = true := by
  rw [Nat.toList_repr] at member
  exact Nat.isDigit_of_mem_toDigits (by decide) (by decide) member

theorem repr_injective {left right : Nat} (same : left.repr = right.repr) : left = right := by
  have digits : Nat.toDigits 10 left = Nat.toDigits 10 right := by
    rw [← Nat.toList_repr, ← Nat.toList_repr, same]
  calc
    left = Nat.ofDigitChars 10 (Nat.toDigits 10 left) 0 :=
      (Nat.ofDigitChars_toDigits (by decide) (by decide)).symm
    _ = right := by rw [digits, Nat.ofDigitChars_toDigits (by decide) (by decide)]

theorem toList_padded (width number : Nat) :
    (padded width number).toList =
      List.replicate (width - number.repr.length) '0' ++ number.repr.toList := by
  simp only [padded, String.toList_append, toList_pushn]
  rfl

theorem isDigit_of_mem_padded {width number : Nat} {char : Char}
    (member : char ∈ (padded width number).toList) : char.isDigit = true := by
  rw [toList_padded] at member
  rcases List.mem_append.mp member with zero | member
  · rw [List.eq_of_mem_replicate zero]
    rfl
  · exact isDigit_of_mem_repr member

/-- A number other than zero is written without zeros in front. -/
theorem exists_cons_repr {number : Nat} (nonzero : number ≠ 0) :
    ∃ first rest, number.repr.toList = first :: rest ∧ first ≠ '0' := by
  rw [Nat.toList_repr]
  induction number using Nat.strongRecOn with
  | ind number induction =>
      rw [Nat.toDigits_eq_if (by decide)]
      split
      · rename_i small
        exact ⟨_, [], rfl, by interval_cases number <;> first | contradiction | decide⟩
      · obtain ⟨first, rest, same, differs⟩ := induction (number / 10) (by omega) (by omega)
        exact ⟨first, rest ++ [Nat.digitChar (number % 10)], by rw [same]; rfl, differs⟩

/-! ## The number digits stand for -/

theorem valueOf_append (base : Nat) (front back : List Nat) :
    valueOf base (front ++ back) = valueOf base front * base ^ back.length + valueOf base back := by
  simp only [valueOf, List.foldl_append]
  generalize front.foldl (fun value digit => value * base + digit) 0 = start
  induction back generalizing start with
  | nil => simp
  | cons digit back induction =>
      rw [List.foldl_cons, List.foldl_cons, induction, induction (0 * base + digit),
        List.length_cons, Nat.pow_succ]
      ring

theorem decimalValue_append (front back : List Char) :
    decimalValue (front ++ back) =
      decimalValue front * 10 ^ back.length + decimalValue back := by
  rw [decimalValue, List.map_append, valueOf_append, List.length_map]
  rfl

theorem decimalValue_zeros (count : Nat) : decimalValue (List.replicate count '0') = 0 := by
  induction count with
  | zero => rfl
  | succ count induction =>
      rw [List.replicate_succ', decimalValue_append, induction]
      rfl

theorem decimalValue_repr (number : Nat) : decimalValue number.repr.toList = number := by
  rw [Nat.toList_repr]
  induction number using Nat.strongRecOn with
  | ind number induction =>
      rw [Nat.toDigits_eq_if (by decide)]
      split
      · rename_i small
        interval_cases number <;> rfl
      · rw [decimalValue_append, induction (number / 10) (by omega)]
        have last : decimalValue [Nat.digitChar (number % 10)] = number % 10 := by
          have := Nat.mod_lt number (by decide : 0 < 10)
          generalize number % 10 = digit at *
          interval_cases digit <;> rfl
        rw [last, List.length_singleton]
        omega

theorem decimalValue_padded (width number : Nat) :
    decimalValue (padded width number).toList = number := by
  rw [toList_padded, decimalValue_append, decimalValue_zeros, decimalValue_repr, Nat.zero_mul,
    Nat.zero_add]

theorem length_padded {width number : Nat} (fits : number < 10 ^ width) (positive : 0 < width) :
    (padded width number).toList.length = width := by
  have := (Nat.length_repr_le_iff positive).mpr fits
  rw [toList_padded, List.length_append, List.length_replicate]
  change width - number.repr.length + number.repr.length = width
  omega

/-! ## Taking digits from a text -/

/-- No digit follows. -/
def EndsDigits (rest : List Char) : Prop := ∀ char ∈ rest.head?, char.isDigit = false

theorem takeDigits_of_ends {rest : List Char} (ends : EndsDigits rest) (most : Nat) :
    takeDigits most rest = ([], rest) := by
  cases most with
  | zero => rfl
  | succ most =>
      cases rest with
      | nil => rfl
      | cons char rest =>
          rw [takeDigits, ends char rfl]
          rfl

theorem takeDigits_append {digits rest : List Char} {most : Nat}
    (digit : ∀ char ∈ digits, char.isDigit = true) (fits : digits.length ≤ most)
    (ends : EndsDigits rest) : takeDigits most (digits ++ rest) = (digits, rest) := by
  induction digits generalizing most with
  | nil => exact takeDigits_of_ends ends most
  | cons first digits induction =>
      obtain ⟨most, rfl⟩ := Nat.exists_eq_succ_of_ne_zero (by rintro rfl; simp at fits : most ≠ 0)
      have shorter : digits.length ≤ most := by simpa using fits
      have others :=
        induction (fun char member => digit char (List.mem_cons_of_mem _ member)) shorter
      rw [List.cons_append, takeDigits, digit first List.mem_cons_self, others]
      rfl

end FaultDrill.Text
