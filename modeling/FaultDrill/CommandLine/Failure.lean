import FaultDrill.Drill.Run
import FaultDrill.Report.Writer
import FaultDrill.Text.Reader
import FaultDrill.Text.Shown

/-!
Why a command failed, and how that is told: the error in front, then what caused
it, each cause on lines of its own.
-/

namespace FaultDrill.CommandLine

inductive Failure where
  /-- The settings in the file at a path cannot be used. -/
  | settingsFile (path : String) (error : SettingsError)
  | settings (error : SettingsError)
  | noClient (error : Http.ClientError)
  | aborted (error : Drill.Failure)
  | noReport (error : WriteError)
  | noSuchFile (path : String)
  /-- Settings that were to be checked have a flaw. -/
  | invalid (error : SettingsError)
  | alreadyThere (path : String)
  | noFolder (error : FileError)
  | notWritten (path : String) (error : FileError)

namespace Failure

/-- Errors from the outermost to the one that caused it. -/
def chain : Failure → List String
  | .settingsFile path error =>
      ("Failed to load configuration from " ++ Text.shown path) :: error.chain
  | .settings error => "Failed to load configuration from environment" :: error.chain
  | .noClient error => "Failed to set up the run" :: (Drill.Failure.noClient error).chain
  | .aborted error => "Run aborted" :: error.chain
  | .noReport error => ["Failed to write report", error.message]
  | .noSuchFile path => ["Configuration file not found: " ++ Text.shown path]
  | .invalid error => error.chain
  | .alreadyThere path =>
      ["Output file already exists: " ++ Text.shown path ++ ". Use --force to overwrite."]
  | .noFolder error => ["Failed to create output directory", error.message]
  | .notWritten path error =>
      ["Failed to write configuration to " ++ Text.shown path, error.message]

/-- A text behind a mark, all further lines as far to the right. -/
def hanging (mark text : String) : String :=
  let lines := (Text.splitAt '\n' text.toList).map String.ofList
  mark ++ ("\n" ++ "".pushn ' ' mark.length).intercalate lines

/-- Causes are numbered if there are several. -/
def causeLines : List String → List String
  | [] => []
  | [cause] => [hanging "    " cause]
  | causes => causes.mapIdx fun index cause =>
      let number := index.repr
      hanging ("".pushn ' ' (5 - number.length) ++ number ++ ": ") cause

def report (chain : List String) : String :=
  let causes := String.join ((causeLines chain.tail).map fun line => "\n" ++ line)
  "Error: " ++ chain.headD "" ++ if causes.isEmpty then "" else "\n\nCaused by:" ++ causes

/-- What is said about a failure. -/
def message (failure : Failure) : String := report failure.chain

example : report ["a", "b"] = "Error: a\n\nCaused by:\n    b" := by decide +kernel
example : report ["a", "b", "c"] = "Error: a\n\nCaused by:\n    0: b\n    1: c" := by decide +kernel

end Failure

end FaultDrill.CommandLine
