import FaultDrill.CommandLine.Host
import FaultDrill.Settings.Loading

/-!
Commands about files of settings, and the settings that the other commands use.
-/

namespace FaultDrill.CommandLine

/-- What a path leads to, as a source of settings. -/
def settingsAt (disk : Disk) (path : String) : SettingsSource :=
  .file ((disk.read path).map String.toUTF8)

/-- The settings of a run. A file that is not there is as good as none. -/
def loadSettings (environment : Environment) (disk : Disk) (path : Option String) :
    Except Failure Settings :=
  let read := Settings.read environment Settings.standardStart
  match path with
  | some path =>
      if disk.has path then (read (settingsAt disk path)).mapError (.settingsFile path)
      else (read .none).mapError .settings
  | none => (read .none).mapError .settings

/-- Checks the settings in a file. -/
def validate (host : Host) (path : String) : Doing Finish := do
  let disk ← get
  if !disk.has path then return .failure (.noSuchFile path)
  match Settings.read host.environment Settings.standardStart (settingsAt disk path) with
  | .ok settings =>
      let count := settings.scenarios.length
      return .success s!"✅ Configuration file is valid ({count} scenarios)\n"
  | .error error =>
      let reason := error.message
      return { Finish.failure (.invalid error) with
        output := s!"❌ Configuration validation failed: {reason}\n" }

/-- Writes settings with all defaults spelled out. A file is only replaced by force. -/
def generate (path : String) (force : Bool) : Doing Finish := do
  let disk ← get
  if disk.has path && !force then return .failure (.alreadyThere path)
  match Disk.makeWay path disk with
  | .error error disk =>
      set disk
      return .failure (.noFolder error)
  | .ok _ disk =>
      set disk
      match disk.write path Settings.sample with
      | .error error => return .failure (.notWritten path error)
      | .ok disk =>
          set disk
          return .success ("✅ Configuration written to " ++ Text.shown path ++ "\n")

end FaultDrill.CommandLine
