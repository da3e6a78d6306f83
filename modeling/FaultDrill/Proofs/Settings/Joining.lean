import FaultDrill.Proofs.Settings.Soundness
import FaultDrill.Proofs.Url.Obstruction

/-!
The addresses that a drill asks its target at. They are texts put together from the
address of the target and a path, and what they stand for follows from that of the parts
exactly if the address ends in its path.
-/

namespace FaultDrill

namespace Target

/-- Both addresses of a target that has passed its check extend that of the target exactly if
this one ends in its path. -/
theorem urls_extend_iff {target : Target} (checked : target.check = .ok ()) :
    ∃ base, Url.parse target.baseUrl = .ok base ∧
      (¬ Url.Climbs target.healthPath →
        ((∃ url, Url.parse target.healthUrl = .ok url ∧
            Url.Extends target.baseUrl target.healthPath base url) ↔
          Url.EndsInPath target.baseUrl)) ∧
      (¬ Url.Climbs target.endpointPath →
        ((∃ url, Url.parse target.endpointUrl = .ok url ∧
            Url.Extends target.baseUrl target.endpointPath base url) ↔
          Url.EndsInPath target.baseUrl)) ∧
      (Url.EndsInPath target.baseUrl →
        (∃ url, Url.parse target.healthUrl = .ok url ∧ Url.StaysAt target.healthPath base url) ∧
          ∃ url, Url.parse target.endpointUrl = .ok url ∧
            Url.StaysAt target.endpointPath base url) ∧
      ∀ count longer, longer = target.baseUrl ++ String.ofList (List.replicate count '/') →
        { target with baseUrl := longer }.healthUrl = target.healthUrl ∧
          { target with baseUrl := longer }.endpointUrl = target.endpointUrl := by
  have sound := isSound_of_check checked
  rcases sound.address with ⟨base, parsed, web⟩
  have isHost := Url.isHostScheme_of_isWeb web
  refine ⟨base, parsed, fun stays => ?_, fun stays => ?_, fun ends => ?_, ?_⟩
  · exact Url.extends_iff sound.healthPath stays parsed isHost
  · exact Url.extends_iff sound.endpointPath stays parsed isHost
  · rcases Url.parse_goesOn parsed isHost ends with ⟨reached, goesOn⟩
    exact ⟨goesOn.staysAt sound.healthPath, goesOn.staysAt sound.endpointPath⟩
  · intro count longer same
    rw [same]
    exact ⟨Url.withPath_slashes _ _ count, Url.withPath_slashes _ _ count⟩

theorem standard_urls_extend :
    ∃ base url, Url.parse ({} : Target).baseUrl = .ok base ∧
      Url.parse ({} : Target).healthUrl = .ok url ∧
      Url.Extends ({} : Target).baseUrl ({} : Target).healthPath base url := by
  have checked : ({} : Target).check = .ok () := eq_ok_of_isOk (by decide +kernel)
  have ends : Url.EndsInPath ({} : Target).baseUrl :=
    { noQuery := by decide +kernel
      noFragment := by decide +kernel
      tight := by
        intro last ends
        have digit : (({} : Target).baseUrl.toList.filter Url.isSolid).getLast? = some '0' := by
          decide +kernel
        rw [digit, Option.some.injEq] at ends
        rw [← ends]
        decide }
  rcases urls_extend_iff checked with ⟨base, parsed, health, -⟩
  rcases (health (by decide +kernel)).mpr ends with ⟨url, joined, extended⟩
  exact ⟨base, url, parsed, joined, extended⟩

/-- A query at the end of the address of a target takes in the path of its health. -/
theorem query_takes_in_path :
    ({ baseUrl := "http://gateway:8080?x=1" } : Target).check = .ok () ∧
      Url.parse ({ baseUrl := "http://gateway:8080?x=1" } : Target).healthUrl =
        .ok ⟨"http", some (.name "gateway"), some 8080, "/", some "x=1/actuator/health"⟩ :=
  ⟨eq_ok_of_isOk (by decide +kernel), by decide +kernel⟩

end Target

end FaultDrill
