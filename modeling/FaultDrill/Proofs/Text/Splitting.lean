import FaultDrill.Text.Reader

/-!
Texts in parts. Splitting at a separator undoes joining with it.
-/

namespace FaultDrill.Text

theorem splitAt_ne_nil (separator : Char) (text : List Char) :
    splitAt separator text ≠ [] := by
  cases text with
  | nil => simp [splitAt]
  | cons char rest =>
      rw [splitAt]
      split
      · simp
      · split <;> simp

theorem splitAt_append (separator : Char) (front back : List Char) :
    splitAt separator (front ++ separator :: back) =
      splitAt separator front ++ splitAt separator back := by
  induction front with
  | nil =>
      rw [List.nil_append, splitAt]
      cases parts : splitAt separator back with
      | nil => exact absurd parts (splitAt_ne_nil separator back)
      | cons part others => simp [splitAt, parts]
  | cons char rest induction =>
      rw [List.cons_append, splitAt, induction]
      cases parts : splitAt separator rest with
      | nil => exact absurd parts (splitAt_ne_nil separator rest)
      | cons part others =>
          rw [splitAt, parts]
          simp only [List.cons_append]
          split <;> rfl

theorem splitAt_of_notMem {separator : Char} {text : List Char} (absent : separator ∉ text) :
    splitAt separator text = [text] := by
  induction text with
  | nil => rfl
  | cons char rest induction =>
      have differs : char ≠ separator := fun equal => absent (equal ▸ List.mem_cons_self)
      have others := induction fun member => absent (List.mem_cons_of_mem _ member)
      rw [splitAt, others]
      simp [differs]

end FaultDrill.Text
