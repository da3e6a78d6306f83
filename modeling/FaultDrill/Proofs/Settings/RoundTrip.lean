import FaultDrill.Proofs.Report.Record
import FaultDrill.Settings.Basic

/-!
Settings that are written and read again. Every section is read back as it was, but for its
times, of which only the whole seconds are written.
-/

namespace FaultDrill

/-! ## Times -/

namespace Duration

/-- The whole seconds of a length of time. -/
def inWholeSeconds (duration : Duration) : Duration := .ofSeconds duration.seconds

theorem inWholeSeconds_eq_iff (duration : Duration) :
    duration.inWholeSeconds = duration ↔ duration.nanoseconds = 0 := by
  rcases duration with ⟨seconds, nanoseconds⟩
  rw [inWholeSeconds, ofSeconds, mk.injEq, eq_self, true_and, eq_comm]

end Duration

/-! ## Sections -/

namespace Target

def inWholeSeconds (target : Target) : Target :=
  { target with
    readinessTimeout := target.readinessTimeout.inWholeSeconds
    pollInterval := target.pollInterval.inWholeSeconds }

theorem ofSource?_toValue (target : Target) :
    ofSource? target.toValue = some target.inWholeSeconds :=
  bind_of_eq_some (members?_ofFields (by simp [names]) (by simp)) rfl

end Target

theorem Route.ofSource?_toValue (route : Route) : ofSource? route.toValue = some route :=
  bind_of_eq_some (members?_ofFields (by simp) (by simp)) rfl

theorem ControlPlane.ofSource?_toValue (controlPlane : ControlPlane) :
    ofSource? controlPlane.toValue = some controlPlane := by
  refine bind_of_eq_some (members?_ofFields (by simp) (by simp)) ?_
  refine bind_of_eq_some rfl ?_
  exact bind_of_eq_some (controlPlane.route.ofSource?_toValue) rfl

theorem Load.ofSource?_toValue (load : Load) : ofSource? load.toValue = some load :=
  bind_of_eq_some (members?_ofFields (by simp) (by simp)) rfl

namespace ConnectionPool

def inWholeSeconds (pool : ConnectionPool) : ConnectionPool :=
  { pool with
    idleTimeout := pool.idleTimeout.inWholeSeconds
    connectionTimeout := pool.connectionTimeout.inWholeSeconds }

theorem ofSource?_toValue (pool : ConnectionPool) :
    ofSource? pool.toValue = some pool.inWholeSeconds :=
  bind_of_eq_some (members?_ofFields (by simp) (by simp)) rfl

end ConnectionPool

namespace HttpSettings

def inWholeSeconds (http : HttpSettings) : HttpSettings :=
  { http with timeout := http.timeout.inWholeSeconds, pool := http.pool.inWholeSeconds }

theorem redirects?_natural (redirects : UInt32) :
    redirects? (Value.natural redirects.toUInt64) = some redirects := by
  have fits : redirects.toUInt64.toNat < UInt32.size := redirects.toNat_lt
  refine bind_of_eq_some (rfl : Value.natural? (.natural redirects.toUInt64) = some _) ?_
  rw [if_pos fits, UInt32.toUInt32_toUInt64]

theorem ofSource?_toValue (http : HttpSettings) :
    ofSource? http.toValue = some http.inWholeSeconds := by
  refine bind_of_eq_some (members?_ofFields (by simp) (by simp)) ?_
  refine bind_of_eq_some rfl ?_
  refine bind_of_eq_some (redirects?_natural http.redirects) ?_
  refine bind_of_eq_some rfl ?_
  refine bind_of_eq_some rfl ?_
  exact bind_of_eq_some http.pool.ofSource?_toValue rfl

end HttpSettings

theorem Output.ofSource?_toValue (output : Output) : ofSource? output.toValue = some output :=
  bind_of_eq_some (members?_ofFields (by simp) (by simp)) rfl

theorem LogLevel.ofName?_name (level : LogLevel) : ofName? level.name = some level := by
  cases level <;> rfl

theorem LogFormat.ofName?_name (format : LogFormat) : ofName? format.name = some format := by
  cases format <;> rfl

theorem LogTarget.ofSource?_toValue (target : LogTarget) :
    ofSource? target.toValue = some target := by
  cases target <;> rfl

theorem Logging.ofSource?_toValue (logging : Logging) :
    ofSource? logging.toValue = some logging := by
  refine bind_of_eq_some (members?_ofFields (by simp) (by simp)) ?_
  refine bind_of_eq_some logging.level.ofName?_name ?_
  refine bind_of_eq_some logging.format.ofName?_name ?_
  refine bind_of_eq_some logging.target.ofSource?_toValue ?_
  exact bind_of_eq_some rfl rfl

/-! ## Settings -/

namespace Settings

variable (settings : Settings)

/-- The settings with no more than the whole seconds of each time. -/
def inWholeSeconds : Settings :=
  { settings with target := settings.target.inWholeSeconds, http := settings.http.inWholeSeconds }

/-- No time of the settings has a fraction of a second. -/
structure HasWholeSeconds : Prop where
  readinessTimeout : settings.target.readinessTimeout.nanoseconds = 0
  pollInterval : settings.target.pollInterval.nanoseconds = 0
  timeout : settings.http.timeout.nanoseconds = 0
  idleTimeout : settings.http.pool.idleTimeout.nanoseconds = 0
  connectionTimeout : settings.http.pool.connectionTimeout.nanoseconds = 0

theorem inWholeSeconds_eq_iff : settings.inWholeSeconds = settings ↔ settings.HasWholeSeconds := by
  rcases settings with ⟨target, controlPlane, load, http, output, logging, scenarios⟩
  rcases target with ⟨baseUrl, healthPath, endpointPath, keyHeader, key, readiness, interval⟩
  rcases http with ⟨timeout, redirects, userAgent, verify, ⟨idlePerHost, idle, connection⟩⟩
  simp only [inWholeSeconds, Target.inWholeSeconds, HttpSettings.inWholeSeconds,
    ConnectionPool.inWholeSeconds, mk.injEq, Target.mk.injEq, HttpSettings.mk.injEq,
    ConnectionPool.mk.injEq, Duration.inWholeSeconds_eq_iff, true_and, and_true]
  constructor
  · rintro ⟨⟨readiness, interval⟩, timeout, idle, connection⟩
    exact ⟨readiness, interval, timeout, idle, connection⟩
  · rintro ⟨readiness, interval, timeout, idle, connection⟩
    exact ⟨⟨readiness, interval⟩, timeout, idle, connection⟩

/-- Fractions of a second are not written. -/
theorem toValue_inWholeSeconds : settings.inWholeSeconds.toValue = settings.toValue := rfl

theorem ofSource?_toValue : ofSource? settings.toValue = some settings.inWholeSeconds := by
  have scenarios : Source.items Scenario.ofSource?
      (Value.list (settings.scenarios.map Scenario.toValue)) = some settings.scenarios :=
    bind_of_eq_some rfl (mapM_map_eq_some fun scenario _ => scenario.ofSource?_toValue)
  refine bind_of_eq_some (members?_ofFields (by simp [names]) (by simp)) ?_
  refine bind_of_eq_some settings.target.ofSource?_toValue ?_
  refine bind_of_eq_some settings.controlPlane.ofSource?_toValue ?_
  refine bind_of_eq_some settings.load.ofSource?_toValue ?_
  refine bind_of_eq_some settings.http.ofSource?_toValue ?_
  refine bind_of_eq_some settings.output.ofSource?_toValue ?_
  refine bind_of_eq_some settings.logging.ofSource?_toValue ?_
  exact bind_of_eq_some scenarios rfl

/-- Settings are read back from what they are written as, and just those without fractions of
a second are read as they were. What is read of any others is written the same way again. The
settings nobody changed are among those that are read as they were. -/
theorem read_as_written :
    (ofSource? settings.toValue = some settings ↔ settings.HasWholeSeconds) ∧
    (∃ read, ofSource? settings.toValue = some read ∧ read.toValue = settings.toValue) ∧
    ofSource? ({} : Settings).toValue = some {} := by
  refine ⟨?_, ⟨_, settings.ofSource?_toValue, settings.toValue_inWholeSeconds⟩, ?_⟩
  · rw [ofSource?_toValue, Option.some.injEq, inWholeSeconds_eq_iff]
  · exact ofSource?_toValue {}

end Settings

end FaultDrill
