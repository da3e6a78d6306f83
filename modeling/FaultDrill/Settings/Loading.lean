import FaultDrill.Settings.Environment
import FaultDrill.Yaml.Part
import FaultDrill.Yaml.Printer

/-!
Settings from their source: YAML text or nothing, then the environment. They are
checked at the end, so that a value that is overridden may be anything.
-/

namespace FaultDrill

/-- What is found where settings are looked for. -/
inductive SettingsSource where
  /-- No file was named. -/
  | none
  | file (content : Except FileError ByteArray)

namespace Settings

/-- The start of the names of variables unless another one is chosen. -/
def standardStart : String := "FAULTLINE"

/-- Settings behind their overrides, checked. -/
def settle (environment : Environment) (start : String) (settings : Settings) :
    Except SettingsError Settings := do
  let settings ← (settings.override environment start).mapError .environment
  settings.check
  return settings

def ofYaml (environment : Environment) (start text : String) : Except SettingsError Settings :=
  match (Yaml.Part.ofText? text).bind ofSource? with
  | some settings => settings.settle environment start
  | Option.none => .error .malformed

def ofEnvironment (environment : Environment) (start : String) : Except SettingsError Settings :=
  ({} : Settings).settle environment start

def ofBytes (environment : Environment) (start : String) (bytes : ByteArray) :
    Except SettingsError Settings :=
  match String.fromUTF8? bytes with
  | some text => ofYaml environment start text
  | Option.none => .error (.unreadable .notUtf8)

def read (environment : Environment) (start : String) : SettingsSource → Except SettingsError Settings
  | .none => ofEnvironment environment start
  | .file (.ok bytes) => ofBytes environment start bytes
  | .file (.error error) => .error (.unreadable error)

/-- All defaults spelled out, as a start for settings of one's own. -/
def sample : String := Yaml.document ({} : Settings).toValue

end Settings

end FaultDrill
