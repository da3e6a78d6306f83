import FaultDrill.Settings.Check
import FaultDrill.Value.Members

/-!
Where reports go and what they are called.
-/

namespace FaultDrill

structure Output where
  directory : String := "chaos-tests"
  filePrefix : String := "report"
  title : String := "Chaos Test Report"
  /-- Whether a report is also written as JSON. -/
  writeJson : Bool := false
  deriving DecidableEq

namespace Output

def sectionName : String := "report"

/-- Characters that no name of a file has. -/
def separatesNames (char : Char) : Bool := char = '/' || char.toNat = 0

def checkValues (output : Output) : Except Flaw Unit := do
  if output.directory.isEmpty then throw .noOutputDirectory
  Check.filled "file_prefix" output.filePrefix
  if output.filePrefix.toList.any separatesNames then
    throw (.separatorInFileName output.filePrefix)
  Check.filled "title" output.title

def check (output : Output) : Except SettingsError Unit := inSection sectionName output.checkValues

def toValue (output : Output) : Value :=
  .ofFields
    [("output_dir", .text output.directory), ("file_prefix", .text output.filePrefix),
     ("title", .text output.title), ("write_json", .truth output.writeJson)]

def ofSource? {data : Type} [Source data] (source : data) : Option Output := do
  let members ← Source.members? ["output_dir", "file_prefix", "title", "write_json"] source
  let standard : Output := {}
  let text := fun name default => Source.optional Source.text? default name members
  some
    { directory := ← text "output_dir" standard.directory
      filePrefix := ← text "file_prefix" standard.filePrefix
      title := ← text "title" standard.title
      writeJson := ← Source.optional Source.truth? standard.writeJson "write_json" members }

end Output

end FaultDrill
