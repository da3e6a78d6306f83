import FaultDrill.Settings.Basic

/-!
Overrides from the environment. Nine variables, all of whose names start with the
same word, take precedence over whatever the settings say.
-/

namespace FaultDrill

/-- The value of each variable by its full name. What is not text is not there. -/
abbrev Environment := String → Option String

/-- The bytes of each variable that is set, by its full name. -/
abbrev RawEnvironment := String → Option ByteArray

/-- What can be read of variables. -/
def Environment.ofRaw (raw : RawEnvironment) : Environment :=
  fun name => (raw name).bind String.fromUTF8?

namespace Settings

/-- The names of all variables, without the word they start with. -/
def variableNames : List String :=
  ["TARGET_URL", "API_KEY", "READINESS_TIMEOUT", "CONTROL_PLANE_URL", "CONCURRENCY",
   "HTTP_TIMEOUT", "REPORT_DIR", "LOG_LEVEL", "LOG_FORMAT"]

/-- The variable of a name under a prefix. -/
def variableName (start name : String) : String := start ++ "_" ++ name

/-- Puts a text in its place. -/
def overrideText (environment : Environment) (start name : String)
    (place : String → Settings → Settings) (settings : Settings) : Settings :=
  match environment (variableName start name) with
  | some value => place value settings
  | none => settings

def overrideNumber (environment : Environment) (start name : String)
    (place : UInt64 → Settings → Settings) (settings : Settings) :
    Except OverrideError Settings :=
  match environment (variableName start name) with
  | some value =>
      match Text.unsigned64 value with
      | .ok number => .ok (place number settings)
      | .error error => .error (.notANumber name error)
  | none => .ok settings

def overrideWord {α : Type} (environment : Environment) (start name : String)
    (ofWord? : String → Option α) (place : α → Settings → Settings) (settings : Settings) :
    Except OverrideError Settings :=
  match environment (variableName start name) with
  | some value =>
      match ofWord? value with
      | some choice => .ok (place choice settings)
      | none => .error (.unknownWord name value)
  | none => .ok settings

/-- All overrides. The first variable that cannot be understood is reported. -/
def override (environment : Environment) (start : String) (settings : Settings) :
    Except OverrideError Settings := do
  let text := overrideText environment start
  let number := overrideNumber environment start
  let settings := text "TARGET_URL" (fun url settings =>
    { settings with target.baseUrl := url }) settings
  let settings := text "API_KEY" (fun key settings => { settings with target.key := key }) settings
  let settings ← number "READINESS_TIMEOUT" (fun seconds settings =>
    { settings with target.readinessTimeout := .ofSeconds seconds }) settings
  let settings := text "CONTROL_PLANE_URL" (fun url settings =>
    { settings with controlPlane.apiUrl := url }) settings
  let settings ← number "CONCURRENCY" (fun concurrency settings =>
    { settings with load.concurrency := concurrency }) settings
  let settings ← number "HTTP_TIMEOUT" (fun seconds settings =>
    { settings with http.timeout := .ofSeconds seconds }) settings
  let settings := text "REPORT_DIR" (fun directory settings =>
    { settings with output.directory := directory }) settings
  let settings ← overrideWord environment start "LOG_LEVEL" LogLevel.ofWord? (fun level settings =>
    { settings with logging.level := level }) settings
  overrideWord environment start "LOG_FORMAT" LogFormat.ofWord? (fun format settings =>
    { settings with logging.format := format }) settings

end Settings

end FaultDrill
