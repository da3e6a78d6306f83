import FaultDrill.Settings.Check
import FaultDrill.Value.Members

/-!
What is logged, how, and where to.
-/

namespace FaultDrill

inductive LogLevel where
  | error
  | warn
  | info
  | debug
  | trace
  deriving DecidableEq

namespace LogLevel

def name : LogLevel → String
  | .error => "error"
  | .warn => "warn"
  | .info => "info"
  | .debug => "debug"
  | .trace => "trace"

def ofName? : String → Option LogLevel
  | "error" => some .error
  | "warn" => some .warn
  | "info" => some .info
  | "debug" => some .debug
  | "trace" => some .trace
  | _ => none

/-- The level someone asks for, in letters of either case. Only plain letters have
two cases here, since no level can be spelled with any other. -/
def ofWord? (word : String) : Option LogLevel :=
  let word := String.ofList (word.toList.map Char.toLower)
  if word = "warning" then some .warn else ofName? word

/-- What is said about a word that is no level. -/
def unknown (word : String) : String := s!"Invalid log level: {word}"

end LogLevel

inductive LogFormat where
  | json
  | text
  | compact
  | pretty
  deriving DecidableEq

namespace LogFormat

def name : LogFormat → String
  | .json => "json"
  | .text => "text"
  | .compact => "compact"
  | .pretty => "pretty"

def ofName? : String → Option LogFormat
  | "json" => some .json
  | "text" => some .text
  | "compact" => some .compact
  | "pretty" => some .pretty
  | _ => none

def ofWord? (word : String) : Option LogFormat :=
  ofName? (String.ofList (word.toList.map Char.toLower))

/-- What is said about a word that is no format. -/
def unknown (word : String) : String := s!"Invalid log format: {word}"

end LogFormat

inductive LogTarget where
  | console
  | file (path : String)
  deriving DecidableEq

namespace LogTarget

def sectionName : String := "logging.target"

def check : LogTarget → Except SettingsError Unit
  | .console => .ok ()
  | .file path => inSection sectionName (Check.filled "path" path)

def toValue : LogTarget → Value
  | .console => .ofFields [("type", .text "console")]
  | .file path => .ofFields [("type", .text "file"), ("path", .text path)]

def ofKind? (kind : String) (rest : Value) : Option LogTarget :=
  match kind with
  | "console" =>
      match rest with
      | .record _ => some .console
      | .list [] => some .console
      | _ => none
  | "file" => do
      let members ← rest.members? ["path"]
      some (.file (← Source.required Value.text? "path" members))
  | _ => none

def ofSource? {data : Type} [Source data] (source : data) : Option LogTarget := do
  let (kind, rest) ← Source.variant? "type" source
  ofKind? kind rest

end LogTarget

structure Logging where
  level : LogLevel := .info
  format : LogFormat := .text
  target : LogTarget := .console
  /-- Whether a line tells where in the program it comes from. -/
  includeLocation : Bool := false
  deriving DecidableEq

namespace Logging

def sectionName : String := "logging"

def check (logging : Logging) : Except SettingsError Unit := logging.target.check

def toValue (logging : Logging) : Value :=
  .ofFields
    [("level", .text logging.level.name), ("format", .text logging.format.name),
     ("target", logging.target.toValue), ("include_location", .truth logging.includeLocation)]

def ofSource? {data : Type} [Source data] (source : data) : Option Logging := do
  let members ← Source.members? ["level", "format", "target", "include_location"] source
  let standard : Logging := {}
  let level? := fun (source : data) => (Source.choice? source).bind LogLevel.ofName?
  let format? := fun (source : data) => (Source.choice? source).bind LogFormat.ofName?
  some
    { level := ← Source.optional level? standard.level "level" members
      format := ← Source.optional format? standard.format "format" members
      target := ← Source.optional LogTarget.ofSource? standard.target "target" members
      includeLocation :=
        ← Source.optional Source.truth? standard.includeLocation "include_location" members }

end Logging

end FaultDrill
