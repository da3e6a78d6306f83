import FaultDrill.CommandLine.Failure
import FaultDrill.Drill.Equipment
import FaultDrill.Settings.Environment

/-!
Where commands run, and what they leave behind.
-/

namespace FaultDrill.CommandLine

/-- What a command finds when it starts. -/
structure Host where
  environment : Environment
  surroundings : Surroundings
  /-- What goes wrong when the report is written. -/
  mishaps : Mishaps := fun _ => none

/-- What a command leaves behind. -/
structure Finish where
  status : Nat
  output : String := ""
  /-- What is said about a failure. -/
  complaint : Option String := none
  /-- What is said about things that do not stop the command. -/
  notices : List String := []
  /-- Requests that reached a server, the latest first. -/
  traffic : Http.Traffic := []

namespace Finish

def success (output : String) : Finish := { status := 0, output }

def failure (reason : Failure) : Finish := { status := 1, complaint := some reason.message }

/-- The status of arguments that cannot be understood. -/
def misuse : Finish := { status := 2 }

/-- The status of a program that broke down. -/
def crash : Finish := { status := 101 }

end Finish

/-- The status of a drill that was interrupted. -/
def interruptedStatus : Nat := 130

/-- Something a command does to the disk. -/
abbrev Doing := StateM Disk

end FaultDrill.CommandLine
