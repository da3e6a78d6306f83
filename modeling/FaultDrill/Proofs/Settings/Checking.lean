import FaultDrill.Proofs.Steps
import FaultDrill.Settings.Loading

/-!
What is known of settings that have passed their checks.
-/

namespace FaultDrill

/-! ## What checks ensure -/

theorem Check.not_isEmpty_of_filled {field value : String}
    (filled : Check.filled field value = .ok ()) : value.isEmpty = false := by
  cases empty : value.isEmpty with
  | false => rfl
  | true =>
      have nothing : value = "" := by simpa using empty
      subst nothing
      cases filled

theorem Target.keyHeader_of_check {target : Target} (checked : target.check = .ok ()) :
    target.keyHeader.isEmpty = false ∧ target.keyHeader.toList.all Http.isTokenChar = true := by
  have values := mapError_eq_ok.mp checked
  obtain ⟨_, _, values⟩ := bind_eq_ok.mp values
  obtain ⟨_, _, values⟩ := bind_eq_ok.mp values
  obtain ⟨_, _, values⟩ := bind_eq_ok.mp values
  obtain ⟨_, filled, values⟩ := bind_eq_ok.mp values
  refine ⟨Check.not_isEmpty_of_filled filled, ?_⟩
  cases tokens : target.keyHeader.toList.all Http.isTokenChar with
  | true => rfl
  | false =>
      rw [tokens] at values
      cases values

/-- A key header that has passed its check is a header name unless it is too long. -/
theorem Target.isHeaderName_iff {target : Target} (checked : target.check = .ok ()) :
    Http.isHeaderName target.keyHeader = true ↔ target.keyHeader.utf8ByteSize < 65536 := by
  obtain ⟨nonempty, tokens⟩ := keyHeader_of_check checked
  simp only [Http.isHeaderName, nonempty, tokens, Bool.not_false, Bool.true_and, Bool.and_true,
    decide_eq_true_eq]

namespace Settings

variable {settings : Settings}

theorem target_check (checked : settings.check = .ok ()) : settings.target.check = .ok () := by
  obtain ⟨_, passed, _⟩ := bind_eq_ok.mp checked
  exact passed

theorem settle_of_override {environment : Environment} {start : String} {given : Settings}
    (overridden : given.override environment start = .ok settings) :
    given.settle environment start = settings.check.map fun _ => settings := by
  rw [settle, overridden]
  change (settings.check >>= fun _ => pure settings) = _
  cases settings.check <;> rfl

theorem check_of_settle {environment : Environment} {start : String} {given : Settings}
    (settled : given.settle environment start = .ok settings) : settings.check = .ok () := by
  obtain ⟨overridden, _, rest⟩ := bind_eq_ok.mp settled
  obtain ⟨_, checked, same⟩ := bind_eq_ok.mp rest
  cases same
  exact checked

theorem check_of_ofYaml {environment : Environment} {start text : String}
    (loaded : ofYaml environment start text = .ok settings) : settings.check = .ok () := by
  unfold ofYaml at loaded
  split at loaded
  · exact check_of_settle loaded
  · cases loaded

/-- Wherever settings are read from, they have passed their checks. -/
theorem check_of_read {environment : Environment} {start : String} {source : SettingsSource}
    (loaded : read environment start source = .ok settings) : settings.check = .ok () := by
  rcases source with _ | ⟨error | bytes⟩
  · exact check_of_settle loaded
  · cases loaded
  · simp only [read, ofBytes] at loaded
    split at loaded
    · exact check_of_ofYaml loaded
    · cases loaded

end Settings

end FaultDrill
