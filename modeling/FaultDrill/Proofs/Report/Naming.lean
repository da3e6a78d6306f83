import FaultDrill.Proofs.Disk.Places
import FaultDrill.Proofs.Settings.Soundness
import FaultDrill.Proofs.Text.Marks
import FaultDrill.Report.Writer

/-!
Names of reports. A prefix that has passed its check makes a single name with any time
behind it, and neither two numbers nor two endings give the same name.
-/

namespace FaultDrill.Output

/-! ## No name is two -/

theorem separatesNames_of_isDigit (char : Char) (isDigit : char.isDigit = true) :
    separatesNames char = false := by
  obtain ⟨least, _⟩ := Text.isDigit_iff.mp isDigit
  have notSlash : char ≠ '/' := by
    rintro rfl
    contradiction
  have notEnd : char.toNat ≠ 0 := by omega
  simp [separatesNames, notSlash, notEnd]

/-- A text of which nothing leads to another name. -/
def IsOneName (text : String) : Prop := ∀ char ∈ text.toList, separatesNames char = false

namespace IsOneName

variable {text : String}

theorem stem {output : Output} (isPrefix : IsOneName output.filePrefix) (report : Report) :
    IsOneName (output.stem report) := by
  have line : Text.Lacks separatesNames "_" := .of_all rfl
  have nothing : Text.Lacks separatesNames "" := nofun
  have date := Text.Lacks.dateText separatesNames_of_isDigit rfl rfl nothing report.generatedAt
  have time := Text.Lacks.timeText separatesNames_of_isDigit nothing report.generatedAt
  exact (((Text.Lacks.append isPrefix line).append date).append line).append time

theorem candidate (isStem : IsOneName text) (number : Nat) : IsOneName (candidate text number) := by
  have line : Text.Lacks separatesNames "_" := .of_all rfl
  cases number with
  | zero => exact isStem
  | succ number =>
      exact (Text.Lacks.append isStem line).append (.repr separatesNames_of_isDigit _)

theorem notMem (isOne : IsOneName text) : '/' ∉ text.toList := Text.Lacks.notMem isOne rfl

end IsOneName

/-! ## Steps inwards -/

section Inwards

variable {text : String} (single : '/' ∉ text.toList)

include single

/-- A name with an ending is a step inwards. -/
theorem isName_ending (ending : List Char) (last : Char) (ends : '/' ∉ ending ++ [last])
    (noPoint : last ≠ '.') : Disk.IsName (text ++ String.ofList (ending ++ [last])) := by
  have notPoints (points : String) (final : points.toList.getLast? ≠ some last) :
      text ++ String.ofList (ending ++ [last]) ≠ points := by
    rintro rfl
    simp at final
  exact
    { filled := notPoints _ (by simp)
      single := by
        rw [String.toList_append, String.toList_ofList, List.mem_append, not_or]
        exact ⟨single, ends⟩
      notHere := notPoints _ (by simpa using noPoint.symm)
      notOutwards := notPoints _ (by simpa using noPoint.symm) }

theorem isName_markdown : Disk.IsName (text ++ ".md") :=
  isName_ending single ['.', 'm'] 'd' (by decide) (by decide)

theorem isName_json : Disk.IsName (text ++ ".json") :=
  isName_ending single ['.', 'j', 's', 'o'] 'n' (by decide) (by decide)

theorem candidate_single (number : Nat) : '/' ∉ (candidate text number).toList := by
  cases number with
  | zero => exact single
  | succ number =>
      simp only [candidate, String.toList_append, List.mem_append, not_or]
      have isNumber := Text.Lacks.repr separatesNames_of_isDigit (number + 1)
      exact ⟨⟨single, by decide⟩, IsOneName.notMem isNumber⟩

end Inwards

theorem IsOneName.markdown {text : String} (isOne : IsOneName text) :
    Disk.IsName (text ++ ".md") := isName_markdown isOne.notMem

theorem IsOneName.json {text : String} (isOne : IsOneName text) :
    Disk.IsName (text ++ ".json") := isName_json isOne.notMem

/-! ## Different names -/

theorem append_right_injective (ending : String) : Function.Injective (· ++ ending) := by
  intro left right same
  apply String.toList_injective
  have texts := congrArg String.toList same
  simpa using texts

theorem markdown_ne_json (left right : String) : left ++ ".md" ≠ right ++ ".json" := by
  intro same
  have texts := congrArg (fun text => text.toList.getLast?) same
  simp at texts

theorem stem_ne_candidate (stem : String) (number : Nat) : stem ≠ candidate stem (number + 1) := by
  intro same
  have lengths := congrArg String.length same
  simp only [candidate, String.length_append] at lengths
  have line : "_".length = 1 := rfl
  omega

theorem candidate_append (outer name : String) (number : Nat) :
    candidate (outer ++ name) number = outer ++ candidate name number := by
  cases number with
  | zero => rfl
  | succ number => simp only [candidate, String.append_assoc]

theorem candidate_injective (stem : String) : Function.Injective (candidate stem) := by
  intro left right same
  cases left with
  | zero =>
      cases right with
      | zero => rfl
      | succ right => exact absurd same (stem_ne_candidate stem right)
  | succ left =>
      cases right with
      | zero => exact absurd same.symm (stem_ne_candidate stem left)
      | succ right =>
          simp only [candidate, String.append_right_inj] at same
          exact Text.repr_injective same

end FaultDrill.Output
