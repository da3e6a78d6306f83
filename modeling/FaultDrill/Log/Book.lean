import FaultDrill.Disk.Basic
import FaultDrill.Log.Event
import FaultDrill.Log.Filter

/-!
A log that is kept. Events that are logged to a file are written behind what is
there; those that are logged to the console leave no trace on the disk.
-/

namespace FaultDrill.Log

structure Book where
  filter : Filter
  format : LogFormat
  includeLocation : Bool
  /-- The file of the log, if it is not the console. -/
  path : Option String

/-- Why a log cannot be kept in a file. -/
inductive OpenError where
  | noFileName (path : String)
  | noFolder (path : String)
  /-- The file itself cannot be opened, which nobody is prepared for. -/
  | noFile
  deriving DecidableEq

def OpenError.message : OpenError → String
  | .noFileName path => s!"Log file path has no file name: {path}"
  | .noFolder path => s!"Failed to create log directory: {path}"
  | .noFile => "initializing rolling file appender failed"

namespace Book

/-- Makes the file of a log, and the folders that lead to it. -/
def openFile (path : String) : EStateM OpenError Disk String := do
  let outer := (Disk.outerPath path).getD ""
  let folder := if outer.isEmpty then "." else outer
  match Disk.lastName path with
  | none => throw (.noFileName path)
  | some name =>
      match Disk.createFolders folder (← get) with
      | .error _ disk =>
          set disk
          throw (.noFolder folder)
      | .ok _ disk =>
          set disk
          match disk.append (Disk.join folder name) "" with
          | .error _ => throw .noFile
          | .ok disk =>
              set disk
              return Disk.join folder name

/-- Opens the log that the settings ask for. The level may be chosen otherwise, and
if it is no filter, a second one may be. -/
def start (logging : Logging) (level second : Option String) :
    EStateM OpenError Disk Book := do
  let filter := Filter.choose (level.getD logging.level.name) second
  let book : Book := ⟨filter, logging.format, logging.includeLocation, none⟩
  match logging.target with
  | .console => return book
  | .file path => return { book with path := some (← openFile path) }

/-- Logs an event at a time. A file that cannot be written any more is left alone. -/
def write (book : Book) (time : Instant) (disk : Disk) (event : Event) : Disk :=
  match book.path with
  | none => disk
  | some path =>
      if book.filter.admits event.reporter event.level then
        match disk.append path (event.render book.format time book.includeLocation) with
        | .ok disk => disk
        | .error _ => disk
      else disk

end Book

end FaultDrill.Log
