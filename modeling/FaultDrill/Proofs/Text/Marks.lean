import FaultDrill.Calendar.Rfc3339
import FaultDrill.Proofs.Text.Digits

/-!
Texts without certain characters. A text that is put together from others lacks what all
of them lack.
-/

namespace FaultDrill.Text

/-- No character of the text is a mark. -/
def Lacks (isMark : Char → Bool) (text : String) : Prop :=
  ∀ char ∈ text.toList, isMark char = false

namespace Lacks

variable {isMark : Char → Bool} {left right separator text : String}

theorem of_all (all : (text.toList.all fun char => !isMark char) = true) : Lacks isMark text := by
  intro char member
  simpa using List.all_eq_true.mp all char member

theorem notMem (lacks : Lacks isMark text) {char : Char} (marks : isMark char = true) :
    char ∉ text.toList := by
  intro member
  rw [lacks char member] at marks
  contradiction

/-- A text without some characters lacks those of them that are fewer. -/
theorem weaken (lacks : Lacks isMark text) {isFewer : Char → Bool}
    (fewer : ∀ char, isFewer char = true → isMark char = true) : Lacks isFewer text := by
  intro char member
  rw [Bool.eq_false_iff]
  intro marks
  exact lacks.notMem (fewer char marks) member

theorem append (isLeft : Lacks isMark left) (isRight : Lacks isMark right) :
    Lacks isMark (left ++ right) := by
  intro char member
  rw [String.toList_append] at member
  rcases List.mem_append.mp member with inLeft | inRight
  · exact isLeft char inLeft
  · exact isRight char inRight

theorem intercalate (isSeparator : Lacks isMark separator) {parts : List String}
    (areParts : ∀ part ∈ parts, Lacks isMark part) :
    Lacks isMark (separator.intercalate parts) := by
  induction parts with
  | nil => exact nofun
  | cons part rest induction =>
      have others := induction fun other member => areParts other (List.mem_cons_of_mem _ member)
      have isPart := areParts part List.mem_cons_self
      cases rest with
      | nil => rwa [String.intercalate_singleton]
      | cons next rest =>
          rw [String.intercalate_cons_cons]
          exact (isPart.append isSeparator).append others

section Digits

variable (sparesDigits : ∀ char : Char, char.isDigit = true → isMark char = false)

include sparesDigits

theorem repr (number : Nat) : Lacks isMark number.repr := fun _ member =>
  sparesDigits _ (isDigit_of_mem_repr member)

theorem padded (width number : Nat) : Lacks isMark (Text.padded width number) := fun _ member =>
  sparesDigits _ (isDigit_of_mem_padded member)

theorem yearText (minus : isMark '-' = false) (plus : isMark '+' = false) (year : Int) :
    Lacks isMark (Instant.yearText year) := by
  rw [Instant.yearText]
  split
  · exact padded sparesDigits 4 _
  · apply append _ (padded sparesDigits 4 _)
    split
    · exact of_all (by simp [minus])
    · exact of_all (by simp [plus])

theorem dateText (minus : isMark '-' = false) (plus : isMark '+' = false)
    (isSeparator : Lacks isMark separator) (instant : Instant) :
    Lacks isMark (instant.dateText separator) :=
  (((yearText sparesDigits minus plus _).append isSeparator).append
    (padded sparesDigits 2 _)).append isSeparator |>.append (padded sparesDigits 2 _)

theorem timeText (isSeparator : Lacks isMark separator) (instant : Instant) :
    Lacks isMark (instant.timeText separator) :=
  (((padded sparesDigits 2 _).append isSeparator).append (padded sparesDigits 2 _)).append
    isSeparator |>.append (padded sparesDigits 2 _)

end Digits

end Lacks

end FaultDrill.Text
