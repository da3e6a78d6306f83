import FaultDrill.CommandLine.Grammar
import FaultDrill.Settings.Basic

/-!
What the arguments of the program ask for. They are read from the left, and the
first that asks for help, or cannot be understood, decides.
-/

namespace FaultDrill.CommandLine

/-- Why arguments do not lead to a task. -/
inductive Stop where
  | help (topic : Topic)
  | version
  | misuse
  deriving DecidableEq

/-! Options of one command -/

/-- The options found so far among those of one command. -/
structure Found where
  /-- The options and their values; plain ones have an empty value. -/
  given : List (Flag × String) := []
  /-- An option of which the value is still to come, or to be checked. -/
  pending : Option (Flag × Option String) := none

namespace Found

/-- Adds an option. None may be given twice, and its value must be fit. -/
def add (flag : Flag) (value : String) (found : Found) : Except Stop Found :=
  if (found.given.lookup flag).isSome || !flag.accepts value then .error .misuse
  else .ok { found with given := (flag, value) :: found.given }

/-- Checks the option that is still to be checked. -/
def settle (found : Found) : Except Stop Found :=
  match found.pending with
  | none => .ok found
  | some (_, none) => .error .misuse
  | some (flag, some value) => add flag value { found with pending := none }

/-- An option by its long name, with the value behind its equals sign. -/
def long (topic : Topic) (found : Found) (name : String) (value : Option String) :
    Except Stop Found := do
  match topic.flags.find? (·.long = name), value with
  | none, _ => throw .misuse
  | some flag, value =>
      let found ← found.settle
      if flag.takesValue then
        match value with
        | some value => found.add flag value
        | none => return { found with pending := some (flag, none) }
      else if value.isSome then throw .misuse
      else if flag = .help then throw (.help topic)
      else if flag = .version then throw .version
      else found.add flag ""

/-- An option by its letter. All options with letters put an end to reading. -/
def short (topic : Topic) (found : Found) (letter : Char) : Except Stop Found := do
  match topic.flags.find? (·.short = some letter) with
  | none => throw .misuse
  | some flag =>
      let _ ← found.settle
      if flag = .help then throw (.help topic) else throw .version

/-- One argument that starts with a hyphen. -/
def option (topic : Topic) (found : Found) : List Char → Except Stop Found
  | '-' :: '-' :: rest =>
      let name := rest.takeWhile (· ≠ '=')
      let value := (rest.drop name.length).tail?.map String.ofList
      found.long topic (String.ofList name) value
  | '-' :: letter :: _ => found.short topic letter
  | _ => .error .misuse

end Found

/-! Commands -/

/-- Follows the words behind a request for help. -/
def helpOn (topic : Topic) : List String → Topic × Bool
  | [] => (topic, true)
  | word :: rest =>
      match topic.children.lookup word with
      | some child => helpOn child rest
      | none => (topic, false)

/-- Whether an argument is an option; a single hyphen is none. -/
def isOption (argument : List Char) : Bool := argument.head? = some '-' && argument.length ≠ 1

/-- Whether a command is complete: groups need a command, except for the program. -/
def isComplete (topic : Topic) (found : Found) : Bool :=
  topic ≠ .config && topic.requiredFlags.all fun flag => (found.given.lookup flag).isSome

/-- Reads the arguments behind a command: the command they lead to, and all
options, those of inner commands first. The options of a command are checked
before the next one, except for the last, which is checked behind inner commands. -/
def readFrom (topic : Topic) (found : Found) :
    List String → Except Stop (Topic × List (Flag × String))
  | [] => do
      let found ← found.settle
      if isComplete topic found then return (topic, found.given) else throw .misuse
  | argument :: rest => do
      let chars := argument.toList
      if argument = "--" then
        let found ← found.settle
        if rest.isEmpty && isComplete topic found then return (topic, found.given)
        else throw .misuse
      else if isOption chars then
        let found ← found.option topic chars
        readFrom topic found rest
      else
        match found.pending with
        | some (flag, none) => readFrom topic { found with pending := some (flag, argument) } rest
        | _ =>
            match topic.children.lookup argument with
            | none => throw .misuse
            | some (.help group) =>
                match helpOn group rest with
                | (topic, true) => throw (.help topic)
                | (_, false) => throw .misuse
            | some child =>
                let (task, inner) ← readFrom child {} rest
                let found ← found.settle
                return (task, inner ++ found.given)

/-! Tasks -/

inductive Task where
  | run
  | scenarios
  | validate (file : String)
  | generate (output : String) (force : Bool)
  deriving DecidableEq

structure Invocation where
  task : Task
  config : Option String
  logLevel : Option String
  outputDirectory : Option String
  json : Bool
  deriving DecidableEq

namespace Invocation

/-- What a command and its options come to. Without a command, a drill is run. -/
def ofOptions (topic : Topic) (options : List (Flag × String)) : Invocation where
  task :=
    match topic with
    | .scenarios => .scenarios
    | .validate => .validate ((options.lookup .file).getD "")
    | .generate => .generate ((options.lookup .output).getD "") (options.lookup .force).isSome
    | _ => .run
  config := options.lookup .config
  logLevel := options.lookup .logLevel
  outputDirectory := options.lookup .outputDirectory
  json := (options.lookup .json).isSome

def read (arguments : List String) : Except Stop Invocation := do
  let (topic, options) ← readFrom .program {} arguments
  return ofOptions topic options

/-- Settings under the options of an invocation. -/
def adjust (invocation : Invocation) (settings : Settings) : Settings :=
  { settings with
    output :=
      { settings.output with
        directory := invocation.outputDirectory.getD settings.output.directory
        writeJson := settings.output.writeJson || invocation.json } }

example : (read ["scenarios", "--config=a", "--json"]).toOption =
    some ⟨.scenarios, some "a", none, none, true⟩ := by decide +kernel

example : (read ["--config", "a", "help", "config"]).toOption = none := by decide +kernel

end Invocation

end FaultDrill.CommandLine
