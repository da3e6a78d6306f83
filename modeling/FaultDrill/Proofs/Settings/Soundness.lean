import FaultDrill.Proofs.Scenario.Sequence
import FaultDrill.Proofs.Settings.Checking
import Mathlib.Data.List.Basic

/-!
What settings that have passed their checks are good for. Each check is told apart
by what its success says, then each section, then the settings as a whole.
-/

namespace FaultDrill

/-! ## Checks of single values -/

namespace Text

/-- There is something to see in a text. -/
def HasInk (text : String) : Prop := ∃ char ∈ text.toList, isBlank char = false

theorem hasInk_iff {text : String} : HasInk text ↔ allBlank text = false := by
  simp [HasInk, allBlank]

theorem HasInk.ne_empty {text : String} (hasInk : HasInk text) : text ≠ "" := by
  rcases hasInk with ⟨char, member, -⟩
  intro empty
  rw [empty] at member
  cases member

end Text

/-- Requests can be sent to an address. -/
def IsWebAddress (address : String) : Prop :=
  ∃ url, Url.parse address = .ok url ∧ (url.scheme = "http" ∨ url.scheme = "https")

namespace Check

variable {field value : String}

theorem filled_eq_ok {done : Unit} : filled field value = .ok done ↔ Text.HasInk value := by
  rw [filled, Text.hasInk_iff]
  cases Text.allBlank value <;> simp

theorem positive_eq_ok {number : Int} {done : Unit} :
    positive field number = .ok done ↔ 0 < number := by
  rw [positive]
  split
  · simp only [reduceCtorEq, false_iff]
    omega
  · simp only [true_iff]
    omega

theorem someTime_eq_ok {time : Duration} {done : Unit} :
    someTime field time = .ok done ↔ 0 < time.toNat := by
  rw [someTime, Duration.isZero]
  cases zero : time.toNat <;> simp

theorem rootedPath_eq_ok {done : Unit} :
    rootedPath field value = .ok done ↔ value.toList.head? = some '/' := by
  rw [rootedPath]
  split <;> simp_all

theorem isWebAddress_of_webAddress {done : Unit} (passed : webAddress field value = .ok done) :
    IsWebAddress value := by
  obtain ⟨_, _, passed⟩ := bind_eq_ok.mp passed
  split at passed
  · cases passed
  · rename_i url parsed
    split at passed
    · rename_i known
      exact ⟨url, parsed, by simpa using known⟩
    · cases passed

end Check

/-! ## Checks of sections -/

structure Target.IsSound (target : Target) : Prop where
  address : IsWebAddress target.baseUrl
  healthPath : target.healthPath.toList.head? = some '/'
  endpointPath : target.endpointPath.toList.head? = some '/'
  readinessTimeout : 0 < target.readinessTimeout.toNat
  pollInterval : 0 < target.pollInterval.toNat
  polling : target.pollInterval.toNat ≤ target.readinessTimeout.toNat

theorem Target.isSound_of_check {target : Target} (checked : target.check = .ok ()) :
    target.IsSound := by
  have values := mapError_eq_ok.mp checked
  obtain ⟨_, address, values⟩ := bind_eq_ok.mp values
  obtain ⟨_, health, values⟩ := bind_eq_ok.mp values
  obtain ⟨_, endpoint, values⟩ := bind_eq_ok.mp values
  obtain ⟨_, _, values⟩ := bind_eq_ok.mp values
  obtain ⟨_, values⟩ := guard_eq_ok.mp values
  obtain ⟨_, timeout, values⟩ := bind_eq_ok.mp values
  obtain ⟨_, interval, values⟩ := bind_eq_ok.mp values
  obtain ⟨polling, _⟩ := return_eq_ok.mp values
  exact
    { address := Check.isWebAddress_of_webAddress address
      healthPath := Check.rootedPath_eq_ok.mp health
      endpointPath := Check.rootedPath_eq_ok.mp endpoint
      readinessTimeout := Check.someTime_eq_ok.mp timeout
      pollInterval := Check.someTime_eq_ok.mp interval
      polling := by omega }

theorem Route.name_of_check {route : Route} (checked : route.check = .ok ()) :
    Text.HasInk route.name ∧ '/' ∉ route.name.toList := by
  have values := mapError_eq_ok.mp checked
  obtain ⟨_, name, values⟩ := bind_eq_ok.mp values
  obtain ⟨noSlash, _⟩ := guard_eq_ok.mp values
  exact ⟨Check.filled_eq_ok.mp name, by simpa using noSlash⟩

structure ControlPlane.IsSound (controlPlane : ControlPlane) : Prop where
  address : IsWebAddress controlPlane.apiUrl
  name : Text.HasInk controlPlane.route.name
  noSlash : '/' ∉ controlPlane.route.name.toList

theorem ControlPlane.isSound_of_check {controlPlane : ControlPlane}
    (checked : controlPlane.check = .ok ()) : controlPlane.IsSound := by
  obtain ⟨_, address, route⟩ := bind_eq_ok.mp checked
  obtain ⟨name, noSlash⟩ := Route.name_of_check route
  exact
    { address := Check.isWebAddress_of_webAddress (mapError_eq_ok.mp address)
      name
      noSlash }

theorem Load.concurrency_of_check {load : Load} (checked : load.check = .ok ()) :
    1 ≤ load.concurrency.toNat ∧ load.concurrency.toNat ≤ 1024 := by
  have values := mapError_eq_ok.mp checked
  obtain ⟨_, positive, limited⟩ := bind_eq_ok.mp values
  have positive := Check.positive_eq_ok.mp positive
  have limited : ¬ greatestConcurrency.toNat < load.concurrency.toNat := (return_eq_ok.mp limited).1
  have greatest : greatestConcurrency.toNat = 1024 := rfl
  omega

structure HttpSettings.IsSound (http : HttpSettings) : Prop where
  timeout : 0 < http.timeout.toNat
  idleTimeout : 0 < http.pool.idleTimeout.toNat
  connectionTimeout : 0 < http.pool.connectionTimeout.toNat

theorem HttpSettings.isSound_of_check {http : HttpSettings} (checked : http.check = .ok ()) :
    http.IsSound := by
  obtain ⟨_, values, pool⟩ := bind_eq_ok.mp checked
  obtain ⟨_, timeout, _⟩ := bind_eq_ok.mp (mapError_eq_ok.mp values)
  obtain ⟨_, _, pool⟩ := bind_eq_ok.mp (mapError_eq_ok.mp pool)
  obtain ⟨_, idle, connection⟩ := bind_eq_ok.mp pool
  exact
    { timeout := Check.someTime_eq_ok.mp timeout
      idleTimeout := Check.someTime_eq_ok.mp idle
      connectionTimeout := Check.someTime_eq_ok.mp connection }

structure Output.IsSound (output : Output) : Prop where
  directory : output.directory ≠ ""
  filePrefix : Text.HasInk output.filePrefix
  oneName : ∀ char ∈ output.filePrefix.toList, separatesNames char = false

theorem Output.isSound_of_check {output : Output} (checked : output.check = .ok ()) :
    output.IsSound := by
  have values := mapError_eq_ok.mp checked
  rw [checkValues] at values
  obtain ⟨directory, values⟩ := guard_eq_ok.mp values
  obtain ⟨_, filePrefix, values⟩ := bind_eq_ok.mp values
  obtain ⟨separators, _⟩ := guard_eq_ok.mp values
  exact
    { directory := by simpa using directory
      filePrefix := Check.filled_eq_ok.mp filePrefix
      oneName := by simpa using separators }

/-! ## Checks of scenarios -/

/-- A fault does something to the route. -/
def Fault.HasEffect : Fault → Prop
  | .latency delay _ => delay ≠ 0
  | .bandwidth rate => rate ≠ 0
  | .disable => True

theorem Fault.check_eq_ok {fault : Fault} {done : Unit} :
    fault.check = .ok done ↔ fault.HasEffect := by
  cases fault <;> simp [check, HasEffect]

structure Scenario.IsRunnable (scenario : Scenario) : Prop where
  name : Text.HasInk scenario.name
  seconds : 1 ≤ scenario.seconds.toNat ∧ scenario.seconds.toNat ≤ 86400
  paced : scenario.pacing.isSome
  fault : ∀ fault ∈ scenario.fault, fault.HasEffect

theorem Scenario.isRunnable_of_check {scenario : Scenario} {done : Unit}
    (checked : scenario.check = .ok done) : scenario.IsRunnable := by
  rw [check] at checked
  obtain ⟨name, checked⟩ := guard_eq_ok.mp checked
  obtain ⟨some, checked⟩ := guard_eq_ok.mp checked
  obtain ⟨short, checked⟩ := guard_eq_ok.mp checked
  obtain ⟨paced, checked⟩ := guard_eq_ok.mp checked
  have short : ¬ longestSeconds.toNat < scenario.seconds.toNat := short
  have longest : longestSeconds.toNat = 86400 := rfl
  have positive : scenario.seconds.toNat ≠ 0 := by
    intro zero
    exact some (UInt64.toNat_inj.mp zero)
  refine
    { name := Text.hasInk_iff.mpr (by simpa using name)
      seconds := by omega
      paced := by simpa [Option.isSome_iff_ne_none] using paced
      fault := ?_ }
  intro fault armed
  rw [Option.mem_def.mp armed] at checked
  dsimp only at checked
  split at checked
  · rename_i passed
    exact Fault.check_eq_ok.mp passed
  · cases checked

/-! ## Settings as a whole -/

namespace Settings

/-- What a drill can rely on. -/
structure IsSound (settings : Settings) : Prop where
  target : settings.target.IsSound
  controlPlane : settings.controlPlane.IsSound
  concurrency : 1 ≤ settings.load.concurrency.toNat ∧ settings.load.concurrency.toNat ≤ 1024
  http : settings.http.IsSound
  output : settings.output.IsSound
  someScenario : settings.scenarios ≠ []
  names : (settings.scenarios.map Scenario.name).Nodup
  scenarios : ∀ scenario ∈ settings.scenarios, scenario.IsRunnable

variable {settings : Settings}

theorem isSound_of_check (checked : settings.check = .ok ()) : settings.IsSound := by
  obtain ⟨_, target, checked⟩ := bind_eq_ok.mp checked
  obtain ⟨_, controlPlane, checked⟩ := bind_eq_ok.mp checked
  obtain ⟨_, load, checked⟩ := bind_eq_ok.mp checked
  obtain ⟨_, http, checked⟩ := bind_eq_ok.mp checked
  obtain ⟨_, output, checked⟩ := bind_eq_ok.mp checked
  obtain ⟨_, _, checked⟩ := bind_eq_ok.mp checked
  obtain ⟨someScenario, checked⟩ := guard_eq_ok.mp checked
  obtain ⟨runnable, distinct⟩ := Scenario.checkSequence_eq_ok.mp (mapError_eq_ok.mp checked)
  exact
    { target := Target.isSound_of_check target
      controlPlane := ControlPlane.isSound_of_check controlPlane
      concurrency := Load.concurrency_of_check load
      http := HttpSettings.isSound_of_check http
      output := Output.isSound_of_check output
      someScenario := by simpa using someScenario
      names := distinct
      scenarios := fun scenario among => Scenario.isRunnable_of_check (runnable scenario among) }

end Settings

end FaultDrill
