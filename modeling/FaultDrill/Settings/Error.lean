import FaultDrill.Disk.Basic
import FaultDrill.Scenario.Basic
import FaultDrill.Text.Unsigned
import FaultDrill.Url.Basic

/-!
Why settings cannot be used. A flaw concerns one value of one section; the other
errors concern the source of the settings or their list of scenarios.
-/

namespace FaultDrill

/-- What is wrong with a value of a section. -/
inductive Flaw where
  | blank (field : String)
  /-- The number, as written, is not above zero. -/
  | notPositive (field written : String)
  | noTime (field : String)
  | badUrl (field : String) (error : UrlError)
  | foreignScheme (field scheme : String)
  | relativePath (field path : String)
  | badEndpoint (field value : String)
  | badHeaderName (name : String)
  /-- Polling less often than the timeout allows. Both are in seconds. -/
  | slowPolling (interval timeout : UInt64)
  | slashInRoute (name : String)
  | tooConcurrent (most given : UInt64)
  | noOutputDirectory
  | separatorInFileName (name : String)
  | noScenario
  deriving DecidableEq

def Flaw.message : Flaw → String
  | .blank field => s!"{field} cannot be empty"
  | .notPositive field written => s!"{field} must be greater than 0, got {written}"
  | .noTime field => s!"{field} must be greater than 0 seconds"
  | .badUrl field error =>
      let reason := error.message
      s!"{field} has invalid URL format: {reason}"
  | .foreignScheme field scheme => s!"{field} scheme '{scheme}' not supported (only http/https)"
  | .relativePath field path => s!"{field} must start with '/', got '{path}'"
  | .badEndpoint field value => s!"{field} must be in host:port form, got '{value}'"
  | .badHeaderName name => s!"api_key_header '{name}' is not a valid header name"
  | .slowPolling interval timeout =>
      s!"poll_interval ({interval}s) cannot exceed readiness_timeout ({timeout}s)"
  | .slashInRoute name => s!"route name '{name}' cannot contain '/'"
  | .tooConcurrent most given => s!"concurrency cannot exceed {most}, got {given}"
  | .noOutputDirectory => "output_dir cannot be empty"
  | .separatorInFileName name => s!"file_prefix '{name}' cannot contain path separators"
  | .noScenario => "At least one scenario must be configured"

/-- What is wrong with a variable of the environment. -/
inductive OverrideError where
  | notANumber (name : String) (error : Text.UnsignedError)
  /-- The value is none of the words that the variable accepts. -/
  | unknownWord (name value : String)
  deriving DecidableEq

def OverrideError.message : OverrideError → String
  | .notANumber name error =>
      let reason := error.message
      s!"Invalid {name}: {reason}"
  | .unknownWord name value => s!"Invalid {name}: {value}"

inductive SettingsError where
  | unreadable (error : FileError)
  /-- The text is not YAML, or not of the expected shape. -/
  | malformed
  | environment (error : OverrideError)
  | scenarios (error : ScenarioError)
  | flawed (place : String) (flaw : Flaw)

namespace SettingsError

/-- What is said about a malformed text, whatever is wrong with it. -/
def malformation : String := "not a document of the expected shape"

/-- The text of an error. -/
def message : SettingsError → String
  | .unreadable error =>
      let reason := error.message
      s!"Failed to read config file: {reason}"
  | .malformed => s!"Failed to parse config: {malformation}"
  | .environment error =>
      let reason := error.message
      s!"Environment variable error: {reason}"
  | .scenarios error =>
      let reason := error.message
      s!"Invalid scenario list: {reason}"
  | .flawed place flaw =>
      let reason := flaw.message
      s!"Domain configuration error in {place}: {reason}"

/-- An error, and what caused it. -/
def chain (error : SettingsError) : List String :=
  match error with
  | .unreadable cause => [error.message, cause.message]
  | .malformed => [error.message, malformation]
  | .environment _ => [error.message]
  | .scenarios cause => [error.message, cause.message]
  | .flawed _ _ => [error.message]

end SettingsError

/-- A check of a value as a check of the section it belongs to. -/
def inSection (place : String) (check : Except Flaw Unit) : Except SettingsError Unit :=
  check.mapError (.flawed place)

end FaultDrill
