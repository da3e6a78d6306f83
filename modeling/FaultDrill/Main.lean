import FaultDrill.CommandLine.Program
import Std.Time.DateTime.Timestamp

/-!
The program on a real machine. The parts of the disk that a command can touch are
read before it runs and what it changed is written afterwards. Nothing on the
network can be connected to from here.
-/

namespace FaultDrill.CommandLine

/-! The disk -/

/-- What is at a place, if anything. -/
def readEntry (place : Place) : IO (Option Entry) := do
  let path := (← IO.currentDir) / ("/" ++ "/".intercalate place)
  if ← path.isDir then return some .folder
  if ← path.pathExists then
    return some (.file (Text.ofBytes (← IO.FS.readBinFile path).toList))
  return none

/-- The names in a folder, each with an entry that tells files from folders. -/
def readNames (place : Place) : IO (List (Place × Entry)) := do
  let path := (← IO.currentDir) / ("/" ++ "/".intercalate place)
  let mut found := []
  for entry in ← path.readDir do
    let kind := if ← entry.path.isDir then Entry.folder else .file ""
    found := (place ++ [entry.fileName], kind) :: found
  return found

/-- Adds everything along a path to what is known of a disk, and the names in the
folder that it leads to. -/
def survey (disk : Disk) (path : String) : IO Disk := do
  let mut disk := disk
  let mut place := if path.toList.head? = some '/' then [] else disk.home
  for name in Disk.parts path do
    if name = ".." then place := place.dropLast
    else if name ≠ "." then
      place := place ++ [name]
      if let some entry ← readEntry place then disk := disk.put place entry
  if disk.entry? place = some .folder then
    for (inner, kind) in ← readNames place do
      if (disk.entry? inner).isNone then disk := disk.put inner kind
  return disk

/-- The paths that an invocation names. -/
def namedPaths (invocation : Invocation) : List String :=
  let task := match invocation.task with
    | .validate path | .generate path _ => [path]
    | .run | .scenarios => []
  task ++ invocation.config.toList

/-- The paths that settings name. -/
def settingsPaths (settings : Settings) : List String :=
  let log := match settings.logging.target with
    | .console => []
    | .file path => [path]
  settings.output.directory :: log

/-- Writes what has changed. -/
def commit (before after : Disk) : IO Unit := do
  for (place, entry) in after.entries.reverse do
    if before.entry? place ≠ some entry then
      let path := "/" ++ "/".intercalate place
      match entry with
      | .folder => IO.FS.createDirAll path
      | .file content => IO.FS.writeFile path content

/-! The machine -/

def readEnvironment : IO Environment := do
  let names := filterVariable ::
    Settings.variableNames.map (Settings.variableName Settings.standardStart)
  let values ← names.mapM fun name => do return (name, ← IO.getEnv name)
  return fun name => (values.lookup name).join

def readClock : IO Instant := do
  let time ← Std.Time.Timestamp.now
  return Instant.epoch.after time.toNanosecondsSinceUnixEpoch.val.toNat

/-- The disk as far as a command can touch it. -/
def readDisk (environment : Environment) (arguments : List String) : IO Disk := do
  let here := (← IO.currentDir).toString
  let home := Disk.parts here
  let mut disk ← survey { home } here
  match Invocation.read arguments with
  | .error _ => return disk
  | .ok invocation =>
      for path in namedPaths invocation do disk ← survey disk path
      match loadSettings environment disk invocation.config with
      | .error _ => return disk
      | .ok settings =>
          for path in settingsPaths (invocation.adjust settings) do disk ← survey disk path
          return disk

def run (arguments : List String) : IO UInt32 := do
  let environment ← readEnvironment
  let disk ← readDisk environment arguments
  let network := Http.Network.unreachable 0
  let host : Host := { environment, surroundings := { startedAt := ← readClock, network } }
  let (finish, after) := (program host arguments).run disk
  commit disk after
  IO.print finish.output
  for notice in finish.notices do IO.eprintln notice
  if let some complaint := finish.complaint then IO.eprintln complaint
  return UInt32.ofNat finish.status

end FaultDrill.CommandLine

def main (arguments : List String) : IO UInt32 := FaultDrill.CommandLine.run arguments
