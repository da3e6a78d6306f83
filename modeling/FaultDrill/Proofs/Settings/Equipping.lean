import FaultDrill.Drill.Equipment
import FaultDrill.Proofs.Http.Headers
import FaultDrill.Proofs.Settings.Checking

/-!
Which settings a drill can be equipped for. Checks look at the characters of the header
that carries the key, but neither at its length nor at the key itself nor at the name of
the client. So settings may pass their checks and ask for clients that cannot be built.
-/

namespace FaultDrill

/-! ## Clients -/

namespace Http.Client

variable {http : HttpSettings} {limit : Duration} {headers : List (String × String)}

theorem build_of_badHeader {cause : HeaderError} (refused : Headers.ofList headers = .error cause) :
    build http limit headers = .error (.badHeader cause) := by
  rw [build, refused]
  rfl

theorem build_of_badUserAgent {added : Headers} (accepted : Headers.ofList headers = .ok added)
    (unsendable : isHeaderValue http.userAgent = false) :
    build http limit headers = .error .badUserAgent := by
  rw [build, accepted, unsendable]
  rfl

theorem build_isOk_iff :
    (∃ client, build http limit headers = .ok client) ↔
      (∃ added, Headers.ofList headers = .ok added) ∧ isHeaderValue http.userAgent = true := by
  cases accepted : Headers.ofList headers with
  | error cause => simp [build_of_badHeader accepted]
  | ok added =>
      cases sendable : isHeaderValue http.userAgent with
      | false => simp [build_of_badUserAgent accepted sendable]
      | true =>
          have built : ∃ client, build http limit headers = .ok client := by
            rw [build, accepted, sendable]
            exact ⟨_, rfl⟩
          exact iff_of_true built ⟨⟨added, rfl⟩, rfl⟩

theorem ofSettings_isOk_iff :
    (∃ client, ofSettings http = .ok client) ↔ isHeaderValue http.userAgent = true :=
  build_isOk_iff.trans (and_iff_right ⟨[], rfl⟩)

end Http.Client

/-! ## Equipment -/

theorem Probe.ofSettings_isOk_iff {http : HttpSettings} {target : Target} :
    (∃ probe, Probe.ofSettings http target = .ok probe) ↔
      Http.isHeaderValue http.userAgent = true := by
  have built : (∃ client, Http.Client.build http target.readinessTimeout [] = .ok client) ↔
      Http.isHeaderValue http.userAgent = true :=
    Http.Client.build_isOk_iff.trans (and_iff_right ⟨[], rfl⟩)
  rw [← built]
  exact pure_isOk_iff

namespace Settings

/-- Nothing that goes into a header is refused there. -/
structure IsSendable (settings : Settings) : Prop where
  userAgent : Http.isHeaderValue settings.http.userAgent = true
  keyHeader : settings.target.keyHeader.utf8ByteSize < 65536
  key : Http.isHeaderValue settings.target.key = true

/-- What is refused first when a drill is equipped. -/
def obstacle? (settings : Settings) : Option Http.ClientError :=
  let target := settings.target
  if Http.isHeaderValue settings.http.userAgent = false then some .badUserAgent
  else if 65536 ≤ target.keyHeader.utf8ByteSize then
    some (.badHeader (.badName target.keyHeader))
  else if Http.isHeaderValue target.key = false then
    some (.badHeader (.badValue target.keyHeader))
  else none

variable {settings : Settings}

theorem isSendable_of_obstacle?_eq_none (free : settings.obstacle? = none) :
    settings.IsSendable := by
  simp only [obstacle?] at free
  split at free
  · cases free
  split at free
  · cases free
  split at free
  · cases free
  rename_i userAgent keyHeader key
  exact ⟨Bool.not_eq_false _ ▸ userAgent, by omega, Bool.not_eq_false _ ▸ key⟩

end Settings

variable {settings : Settings}

theorem LoadGenerator.ofSettings_isOk_iff (checked : settings.check = .ok ()) :
    (∃ generator, LoadGenerator.ofSettings settings = .ok generator) ↔ settings.IsSendable := by
  have name := Target.isHeaderName_iff (Settings.target_check checked)
  unfold LoadGenerator.ofSettings
  rw [pure_isOk_iff, Http.Client.build_isOk_iff, Http.Headers.ofList_isOk_iff,
    List.forall_mem_singleton, Http.IsWellFormed, name]
  constructor
  · rintro ⟨⟨keyHeader, key⟩, userAgent⟩
    exact ⟨userAgent, keyHeader, key⟩
  · rintro ⟨userAgent, keyHeader, key⟩
    exact ⟨⟨keyHeader, key⟩, userAgent⟩

namespace Equipment

theorem ofSettings_isOk_iff :
    (∃ equipment, ofSettings settings = .ok equipment) ↔
      (∃ probe, Probe.ofSettings settings.http settings.target = .ok probe) ∧
      (∃ client, Http.Client.ofSettings settings.http = .ok client) ∧
      ∃ generator, LoadGenerator.ofSettings settings = .ok generator := by
  constructor
  · rintro ⟨equipment, built⟩
    obtain ⟨probe, probeBuilt, rest⟩ := bind_eq_ok.mp built
    obtain ⟨client, clientBuilt, rest⟩ := bind_eq_ok.mp rest
    obtain ⟨generator, generatorBuilt, -⟩ := bind_eq_ok.mp rest
    exact ⟨⟨probe, probeBuilt⟩, ⟨client, clientBuilt⟩, ⟨generator, generatorBuilt⟩⟩
  · rintro ⟨⟨probe, probeBuilt⟩, ⟨client, clientBuilt⟩, ⟨generator, generatorBuilt⟩⟩
    rw [ofSettings, probeBuilt, clientBuilt, generatorBuilt]
    exact ⟨_, rfl⟩

theorem ofSettings_of_badUserAgent
    (unsendable : Http.isHeaderValue settings.http.userAgent = false) :
    ofSettings settings = .error .badUserAgent := by
  rw [ofSettings, Probe.ofSettings, Http.Client.build_of_badUserAgent rfl unsendable]
  rfl

theorem ofSettings_of_badKey (userAgent : Http.isHeaderValue settings.http.userAgent = true)
    {cause : Http.HeaderError}
    (refused : Http.Headers.ofList [(settings.target.keyHeader, settings.target.key)] =
      .error cause) :
    ofSettings settings = .error (.badHeader cause) := by
  have ⟨_, probe⟩ : ∃ probe, Probe.ofSettings settings.http settings.target = .ok probe :=
    Probe.ofSettings_isOk_iff.mpr userAgent
  have ⟨_, client⟩ := Http.Client.ofSettings_isOk_iff.mpr userAgent
  rw [ofSettings, probe, client, LoadGenerator.ofSettings, Http.Client.build_of_badHeader refused]
  rfl

theorem ofSettings_of_obstacle (checked : settings.check = .ok ()) {error : Http.ClientError}
    (hindered : settings.obstacle? = some error) : ofSettings settings = .error error := by
  have name := Target.isHeaderName_iff (Settings.target_check checked)
  cases userAgent : Http.isHeaderValue settings.http.userAgent with
  | false =>
      simp only [Settings.obstacle?, userAgent] at hindered
      cases hindered
      exact ofSettings_of_badUserAgent userAgent
  | true =>
      simp only [Settings.obstacle?, userAgent] at hindered
      rw [if_neg (by decide)] at hindered
      split at hindered
      · rename_i long
        have unnamed : Http.isHeaderName settings.target.keyHeader = false := by
          rw [← Bool.not_eq_true, name]
          omega
        cases hindered
        exact ofSettings_of_badKey userAgent (Http.Headers.add_cons_of_concerns (.name unnamed))
      · rename_i short
        have named : Http.isHeaderName settings.target.keyHeader = true := name.mpr (by omega)
        split at hindered
        · rename_i key
          cases hindered
          exact ofSettings_of_badKey userAgent
            (Http.Headers.add_cons_of_concerns (.value named key))
        · cases hindered

/-- Settings that have passed their checks equip a drill exactly if nothing that goes
into a header is refused there. The probe and the client of the control plane only
depend on the name of the client. -/
theorem ofSettings_isOk_iff_isSendable (settings : Settings) (checked : settings.check = .ok ()) :
    ((∃ probe, Probe.ofSettings settings.http settings.target = .ok probe) ↔
      Http.isHeaderValue settings.http.userAgent = true) ∧
    ((∃ client, Http.Client.ofSettings settings.http = .ok client) ↔
      Http.isHeaderValue settings.http.userAgent = true) ∧
    ((∃ generator, LoadGenerator.ofSettings settings = .ok generator) ↔ settings.IsSendable) ∧
    ((∃ equipment, ofSettings settings = .ok equipment) ↔ settings.IsSendable) ∧
    ∀ error, ofSettings settings = .error error ↔ settings.obstacle? = some error := by
  have generator := LoadGenerator.ofSettings_isOk_iff checked
  have equipment : (∃ equipment, ofSettings settings = .ok equipment) ↔ settings.IsSendable := by
    rw [ofSettings_isOk_iff, Probe.ofSettings_isOk_iff, Http.Client.ofSettings_isOk_iff, generator]
    constructor
    · exact fun parts => parts.2.2
    · exact fun sendable => ⟨sendable.userAgent, sendable.userAgent, sendable⟩
  refine ⟨Probe.ofSettings_isOk_iff, Http.Client.ofSettings_isOk_iff, generator, equipment, ?_⟩
  intro error
  constructor
  · intro failed
    cases hindered : settings.obstacle? with
    | none =>
        obtain ⟨_, built⟩ := equipment.mpr (Settings.isSendable_of_obstacle?_eq_none hindered)
        rw [failed] at built
        cases built
    | some first =>
        have failedFirst := ofSettings_of_obstacle checked hindered
        rw [failed] at failedFirst
        cases failedFirst
        rfl
  · exact ofSettings_of_obstacle checked

/-- Settings nobody changed. -/
theorem standard_is_equipped :
    ({} : Settings).check = .ok () ∧ ∃ equipment, ofSettings {} = .ok equipment := by
  have checked : ({} : Settings).check = .ok () := eq_ok_of_isOk (by decide +kernel)
  refine ⟨checked, (ofSettings_isOk_iff_isSendable {} checked).2.2.2.1.mpr ?_⟩
  exact ⟨by decide +kernel, by decide +kernel, by decide +kernel⟩

/-- A key of two lines, from the environment, passes all checks, but no drill can be
equipped with it. -/
theorem key_of_two_lines :
    let environment : Environment := fun name =>
      if name = "FAULTLINE_API_KEY" then some "line\nbreak" else none
    ∃ settings, Settings.read environment Settings.standardStart .none = .ok settings ∧
      settings.check = .ok () ∧
      ofSettings settings = .error (.badHeader (.badValue "X-API-Key")) := by
  intro environment
  have checked : ({ target := { key := "line\nbreak" } } : Settings).check = .ok () :=
    eq_ok_of_isOk (by decide +kernel)
  have overridden : ({} : Settings).override environment Settings.standardStart =
      .ok { target := { key := "line\nbreak" } } := by
    simp [Settings.override, Settings.overrideText, Settings.overrideNumber,
      Settings.overrideWord, Settings.variableName, Settings.standardStart, environment, bind,
      Except.bind]
  refine ⟨{ target := { key := "line\nbreak" } }, ?_, checked, ?_⟩
  · rw [Settings.read, Settings.ofEnvironment, Settings.settle_of_override overridden, checked]
    rfl
  · exact ofSettings_of_obstacle checked (by decide +kernel)

end Equipment

end FaultDrill
