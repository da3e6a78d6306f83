import FaultDrill.Disk.Basic
import FaultDrill.Report.Markdown
import FaultDrill.Report.Record
import FaultDrill.Settings.Output

/-!
Reports on disk. A report is named for the second it was generated in, with a
number behind the name if there is such a file already.
-/

namespace FaultDrill

/-- The disk refused an operation on a path. -/
structure WriteError where
  path : String
  operation : String
  error : FileError
  deriving DecidableEq

def WriteError.message (error : WriteError) : String :=
  let reason := error.error.message
  s!"Filesystem error at {error.path} during {error.operation}: {reason}"

/-- What writing a report asks of a system. -/
inductive Operation where
  | createDirectory
  /-- Whether the name of a number is taken. -/
  | checkExisting (number : Nat)
  | writeMarkdown
  | writeJson
  deriving DecidableEq

def Operation.name : Operation → String
  | .createDirectory => "create directory"
  | .checkExisting _ => "check existing"
  | .writeMarkdown | .writeJson => "write"

/-- Why a system does not do what it is asked, though nothing on the disk is in the
way, and how far it gets: the folder it makes, or the text it leaves in a file. -/
structure Mishap where
  error : FileError
  remnant : Option String := none

/-- What goes wrong when a report is written. -/
abbrev Mishaps := Operation → Option Mishap

/-- A disk behind operations of which one may have failed. -/
abbrev Writing := EStateM WriteError Disk

namespace Writing

def change (path : String) (operation : Operation) (act : Disk.Change) : Writing Unit := fun disk =>
  match act disk with
  | .ok _ disk => .ok () disk
  | .error error disk => .error ⟨path, operation.name, error⟩ disk

def ask {α : Type} (path : String) (operation : Operation) (question : Disk → Except FileError α) :
    Writing α := do
  match question (← get) with
  | .ok answer => return answer
  | .error error => throw ⟨path, operation.name, error⟩

variable (mishaps : Mishaps)

/-- Goes on with an operation if the system does it. -/
def unlessRefused {α : Type} (path : String) (operation : Operation) (remains : String → Disk.Change)
    (act : Writing α) : Writing α := do
  match mishaps operation with
  | none => act
  | some mishap =>
      if let some remnant := mishap.remnant then change path operation (remains remnant)
      throw ⟨path, operation.name, mishap.error⟩

def createFolders (path : String) : Writing Unit :=
  unlessRefused mishaps path .createDirectory Disk.createFolders <|
    change path .createDirectory (Disk.createFolders path)

def isTaken (number : Nat) (path : String) : Writing Bool :=
  unlessRefused mishaps path (.checkExisting number) (fun _ => return ()) <|
    ask path (.checkExisting number) (·.has? path)

/-- Writes a text, of which something else may remain. -/
def writeFile (operation : Operation) (path content : String) : Writing Unit :=
  let put := fun content => Disk.Change.single (·.write path content)
  unlessRefused mishaps path operation put (change path operation (put content))

end Writing

namespace Output

/-- The name of a report without its ending. -/
def stem (output : Output) (report : Report) : String :=
  let instant := report.generatedAt
  output.filePrefix ++ "_" ++ instant.dateText "" ++ "_" ++ instant.timeText ""

def markdownPath (output : Output) (stem : String) : String :=
  Disk.join output.directory (stem ++ ".md")

def jsonPath (output : Output) (stem : String) : String :=
  Disk.join output.directory (stem ++ ".json")

/-- The name itself at first, then the name with a number. -/
def candidate (stem : String) : Nat → String
  | 0 => stem
  | number => stem ++ "_" ++ number.repr

/-- The first free name from a number on. -/
def freeStem (output : Output) (mishaps : Mishaps) (stem : String) : Nat → Nat → Writing String
  | 0, number => return candidate stem number
  | fuel + 1, number => do
      let path := output.markdownPath (candidate stem number)
      if ← Writing.isTaken mishaps number path then
        freeStem output mishaps stem fuel (number + 1)
      else return candidate stem number

/-- Writes a report amid what goes wrong, and returns the path of its Markdown file. Of
one more name than there are entries on the disk one is free. -/
def writeAmid (output : Output) (mishaps : Mishaps) (report : Report) : Writing String := do
  Writing.createFolders mishaps output.directory
  let stem ← output.freeStem mishaps (output.stem report) ((← get).entries.length + 1) 0
  let path := output.markdownPath stem
  Writing.writeFile mishaps .writeMarkdown path report.toMarkdown
  if output.writeJson then
    Writing.writeFile mishaps .writeJson (output.jsonPath stem) report.toJson
  return path

/-- Writes a report where only what is on the disk can be in the way. -/
def write (output : Output) : Report → Writing String := output.writeAmid fun _ => none

end Output

end FaultDrill
