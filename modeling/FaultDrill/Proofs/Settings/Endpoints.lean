import FaultDrill.Proofs.Settings.Soundness
import FaultDrill.Proofs.Text.Unsigned

/-!
Which texts pass for a host and a port. The port is read as whole numbers given by hand
are, so that a plus sign may stand in front of its digits.
-/

namespace FaultDrill

open Text

namespace Check

/-! ## The last colon -/

theorem splitLastColon_append {host port : List Char} (noColon : ':' ∉ port) :
    splitLastColon (host ++ ':' :: port) = some (host, port) := by
  have found : (host ++ ':' :: port).contains ':' = true := by simp
  have reversed : (host ++ ':' :: port).reverse = port.reverse ++ ':' :: host.reverse := by simp
  have inPort : ∀ char ∈ port.reverse, decide (char ≠ ':') = true := by
    intro char member
    rw [List.mem_reverse] at member
    simp only [ne_eq, decide_eq_true_eq]
    exact fun same => noColon (same ▸ member)
  have behind : ((host ++ ':' :: port).reverse.takeWhile (· ≠ ':')).reverse = port := by
    rw [reversed, List.takeWhile_append_of_pos inPort, List.takeWhile_cons_of_neg (by decide),
      List.append_nil, List.reverse_reverse]
  have inFront : (host ++ ':' :: port).length - port.length - 1 = host.length := by
    rw [List.length_append, List.length_cons]
    omega
  rw [splitLastColon, if_pos found, behind]
  dsimp only
  rw [inFront, List.take_left]

theorem exists_splitLastColon {text : List Char} (found : ':' ∈ text) :
    ∃ host port, text = host ++ ':' :: port ∧ ':' ∉ port := by
  obtain ⟨port, host, reversed, noColon⟩ :=
    List.eq_append_cons_of_mem (List.mem_reverse.mpr found)
  refine ⟨host.reverse, port.reverse, ?_, by simpa using noColon⟩
  rw [← List.reverse_reverse text, reversed]
  simp

theorem splitLastColon_eq_some {text host port : List Char} :
    splitLastColon text = some (host, port) ↔ text = host ++ ':' :: port ∧ ':' ∉ port := by
  constructor
  · intro split
    have found : ':' ∈ text := by
      by_contra absent
      rw [splitLastColon, if_neg (by simpa using absent)] at split
      cases split
    obtain ⟨otherHost, otherPort, rfl, noColon⟩ := exists_splitLastColon found
    rw [splitLastColon_append noColon] at split
    cases split
    exact ⟨rfl, noColon⟩
  · rintro ⟨rfl, noColon⟩
    exact splitLastColon_append noColon

/-! ## Hosts and ports -/

/-- A host that is not empty, a colon, a sign if there is one, and the digits of a port. No
digit is a colon, so that the colon is the last one. -/
def IsEndpoint (sign : List Char) (text : String) : Prop :=
  ∃ host port number, text.toList = host ++ ':' :: (sign ++ port) ∧ host ≠ [] ∧
    IsNumeral port number ∧ 1 ≤ number ∧ number ≤ 65535

variable {value : String}

theorem colon_notMem {port : List Char} {number : Nat} (stands : StandsFor port number) :
    ':' ∉ port := by
  have noDigit : ':'.isDigit = false := by decide
  obtain ⟨digits, rfl | rfl, numeral⟩ := stands
  · exact numeral.notMem noDigit
  · simpa using numeral.notMem noDigit

theorem isHostAndPort_iff :
    isHostAndPort value = true ↔
      ∃ host port number, value.toList = host ++ ':' :: port ∧ host ≠ [] ∧
        StandsFor port number ∧ 1 ≤ number ∧ number ≤ 65535 := by
  rw [isHostAndPort]
  cases split : splitLastColon value.toList with
  | none =>
      refine iff_of_false nofun ?_
      rintro ⟨host, port, number, whole, _, stands, _⟩
      cases split.symm.trans (splitLastColon_eq_some.mpr ⟨whole, colon_notMem stands⟩)
  | some parts =>
      rcases parts with ⟨host, port⟩
      have read (number : Nat) : unsigned 65536 (String.ofList port) = .ok number ↔
          StandsFor port number ∧ number < 65536 := by
        rw [unsigned_eq_ok (by decide), String.toList_ofList]
      dsimp only
      constructor
      · intro accepted
        have whole := (splitLastColon_eq_some.mp split).1
        cases found : unsigned 65536 (String.ofList port) with
        | error error =>
            rw [found] at accepted
            cases accepted
        | ok number =>
            obtain ⟨stands, small⟩ := (read number).mp found
            simp only [found, Bool.and_eq_true, Bool.not_eq_true', List.isEmpty_eq_false_iff,
              decide_eq_true_eq] at accepted
            obtain ⟨nonempty, positive⟩ := accepted
            exact ⟨host, port, number, whole, nonempty, stands, by omega, by omega⟩
      · rintro ⟨otherHost, otherPort, number, whole, nonempty, stands, positive, small⟩
        cases split.symm.trans (splitLastColon_eq_some.mpr ⟨whole, colon_notMem stands⟩)
        rw [(read number).mpr ⟨stands, by omega⟩]
        simp only [Bool.and_eq_true, Bool.not_eq_true', List.isEmpty_eq_false_iff,
          decide_eq_true_eq]
        exact ⟨nonempty, by omega⟩

theorem isHostAndPort_iff_isEndpoint :
    isHostAndPort value = true ↔ IsEndpoint [] value ∨ IsEndpoint ['+'] value := by
  rw [isHostAndPort_iff]
  constructor
  · rintro ⟨host, port, number, whole, nonempty, ⟨digits, rfl | rfl, numeral⟩, bounds⟩
    · exact .inl ⟨host, port, number, whole, nonempty, numeral, bounds⟩
    · exact .inr ⟨host, digits, number, whole, nonempty, numeral, bounds⟩
  · rintro (⟨host, digits, number, whole, nonempty, numeral, bounds⟩ |
      ⟨host, digits, number, whole, nonempty, numeral, bounds⟩)
    · exact ⟨host, digits, number, whole, nonempty, ⟨digits, .inl rfl, numeral⟩, bounds⟩
    · exact ⟨host, '+' :: digits, number, whole, nonempty, ⟨digits, .inr rfl, numeral⟩, bounds⟩

/-- What stands behind the last colon begins with a plus sign or it does not. -/
theorem not_isEndpoint_signed (unsigned : IsEndpoint [] value) : ¬ IsEndpoint ['+'] value := by
  rintro ⟨otherHost, digits, otherNumber, otherWhole, _, otherNumeral, _⟩
  obtain ⟨host, port, number, whole, _, numeral, _⟩ := unsigned
  have noColon := colon_notMem ⟨port, .inl rfl, numeral⟩
  have noOtherColon := colon_notMem ⟨digits, .inr rfl, otherNumeral⟩
  have split := splitLastColon_eq_some.mpr ⟨whole, noColon⟩
  cases split.symm.trans (splitLastColon_eq_some.mpr ⟨otherWhole, noOtherColon⟩)
  exact numeral.notMem (by decide) List.mem_cons_self

theorem hasInk_of_isHostAndPort (accepted : isHostAndPort value = true) : HasInk value := by
  obtain ⟨host, port, number, whole, _⟩ := isHostAndPort_iff.mp accepted
  exact ⟨':', by simp [whole], by decide⟩

theorem hostAndPort_of_hasInk (field : String) (hasInk : HasInk value) :
    hostAndPort field value =
      if isHostAndPort value then .ok () else .error (.badEndpoint field value) := by
  have passed : filled field value = .ok () := filled_eq_ok.mpr hasInk
  rw [hostAndPort, passed]
  rfl

theorem hostAndPort_of_blank (field : String) (blank : ¬ HasInk value) :
    hostAndPort field value = .error (.blank field) := by
  have allBlank : allBlank value = true := by simpa [hasInk_iff] using blank
  rw [hostAndPort, filled, if_pos allBlank]
  rfl

/-- A text that is not blank passes exactly if it is a host, a colon and a port, or if it is
that with one plus sign in front of the port. All others are refused as what they are. -/
theorem hostAndPort_judges (field value : String) :
    (hostAndPort field value = .ok () ↔ IsEndpoint [] value ∨ IsEndpoint ['+'] value) ∧
    (hostAndPort field value = .error (.badEndpoint field value) ↔
      HasInk value ∧ ¬ IsEndpoint [] value ∧ ¬ IsEndpoint ['+'] value) ∧
    (hostAndPort field value = .error (.blank field) ↔ ¬ HasInk value) ∧
    ¬ (IsEndpoint [] value ∧ IsEndpoint ['+'] value) := by
  rw [← not_or, ← isHostAndPort_iff_isEndpoint]
  by_cases hasInk : HasInk value
  · rw [hostAndPort_of_hasInk field hasInk]
    refine ⟨?_, ?_, ?_, fun both => not_isEndpoint_signed both.1 both.2⟩ <;>
      cases isHostAndPort value <;> simp [hasInk]
  · have refused : isHostAndPort value ≠ true := fun passed =>
      hasInk (hasInk_of_isHostAndPort passed)
    rw [hostAndPort_of_blank field hasInk]
    refine ⟨?_, ?_, ?_, fun both => not_isEndpoint_signed both.1 both.2⟩ <;>
      simp [hasInk, refused]

/-- The digits of a port are enough, but a plus sign in front of them is let through, too. -/
theorem signed_port_accepted :
    hostAndPort "listen" "redis:+6379" = .ok () ∧ ¬ IsEndpoint [] "redis:+6379" := by
  have signed : IsEndpoint ['+'] "redis:+6379" :=
    ⟨"redis".toList, ['6', '3', '7', '9'], 6379, by decide, by decide,
      ⟨by decide, by simp, by decide⟩, by decide, by decide⟩
  have passed := isHostAndPort_iff_isEndpoint.mpr (.inr signed)
  have hasInk := hasInk_of_isHostAndPort passed
  refine ⟨?_, fun unsigned => not_isEndpoint_signed unsigned signed⟩
  rw [hostAndPort_of_hasInk _ hasInk, if_pos passed]

end Check

end FaultDrill
