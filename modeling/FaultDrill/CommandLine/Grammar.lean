/-!
The commands of the program and the options each of them takes, with what is said
about them when somebody asks for help.
-/

namespace FaultDrill.CommandLine

def programName : String := "faultline"

def version : String := "faultline-cli 0.1.0"

/-- A command, or a group of commands. -/
inductive Topic where
  | program
  | run
  | scenarios
  | config
  | validate
  | generate
  /-- Help on the commands of a group. -/
  | help (group : Topic)
  deriving DecidableEq

/-- What may be asked for besides a command. -/
inductive Flag where
  | config
  | logLevel
  | outputDirectory
  | json
  | file
  | output
  | force
  | help
  | version
  deriving Repr, DecidableEq

namespace Flag

def long : Flag → String
  | .config => "config"
  | .logLevel => "log-level"
  | .outputDirectory => "output-dir"
  | .json => "json"
  | .file => "file"
  | .output => "output"
  | .force => "force"
  | .help => "help"
  | .version => "version"

/-- The letter that stands for a flag. -/
def short : Flag → Option Char
  | .help => some 'h'
  | .version => some 'V'
  | _ => none

/-- What the value of an option is called, if it has one. -/
def valueName : Flag → Option String
  | .config | .outputDirectory | .file | .output => some "PATH"
  | .logLevel => some "LEVEL"
  | _ => none

def takesValue (flag : Flag) : Bool := flag.valueName.isSome

/-- The value of an option may be empty unless it is a path. -/
def accepts (flag : Flag) (value : String) : Bool :=
  !(flag.valueName = some "PATH" && value.isEmpty)

def about : Flag → String
  | .config => "Path to configuration file"
  | .logLevel => "Set the log level (trace, debug, info, warn, error)"
  | .outputDirectory => "Directory for the report, overriding the configuration"
  | .json => "Also write the results as JSON next to the Markdown report"
  | .file => "Path to the configuration file"
  | .output => "Output file path"
  | .force => "Overwrite existing file"
  | .help => "Print help"
  | .version => "Print version"

end Flag

namespace Topic

/-- The words that lead to a command. -/
def words : Topic → List String
  | .program => [programName]
  | .run => [programName, "run"]
  | .scenarios => [programName, "scenarios"]
  | .config => [programName, "config"]
  | .validate => [programName, "config", "validate"]
  | .generate => [programName, "config", "generate"]
  | .help group => words group ++ ["help"]

def about : Topic → String
  | .program => "Chaos-test a gateway by injecting dependency faults under load"
  | .run => "Run every configured scenario and write the report"
  | .scenarios => "List the configured scenario sequence"
  | .config => "Configuration management commands"
  | .validate => "Validate a configuration file"
  | .generate => "Generate a sample configuration file with every default spelled out"
  | .help _ => "Print this message or the help of the given subcommand(s)"

/-- The commands of a group, in the order in which they are listed. -/
def children : Topic → List (String × Topic)
  | .program =>
      [("run", .run), ("scenarios", .scenarios), ("config", .config), ("help", .help .program)]
  | .config => [("validate", .validate), ("generate", .generate), ("help", .help .config)]
  | _ => []

/-- The options of a command, in the order in which they are listed. Those of the
program may stand behind every command. -/
def flags : Topic → List Flag
  | .program => [.config, .logLevel, .outputDirectory, .json, .help, .version]
  | .validate => [.config, .file, .logLevel, .outputDirectory, .json, .help]
  | .generate => [.config, .output, .force, .logLevel, .outputDirectory, .json, .help]
  | .help _ => []
  | _ => [.config, .logLevel, .outputDirectory, .json, .help]

/-- The options that must be given. -/
def requiredFlags : Topic → List Flag
  | .validate => [.file]
  | .generate => [.output]
  | _ => []

end Topic

/-! Help -/

/-- An option as it is written, without its explanation. -/
def Flag.spelling (flag : Flag) : String :=
  let letter := match flag.short with
    | some letter => String.ofList ['-', letter, ',', ' ']
    | none => "    "
  let value := match flag.valueName with
    | some name => " <" ++ name ++ ">"
    | none => ""
  letter ++ "--" ++ flag.long ++ value

/-- Rows of two columns, the second one aligned. -/
def columns (rows : List (String × String)) : String :=
  let width := (rows.map (·.1.length)).foldr max 0
  String.join (rows.map fun (left, right) =>
    "  " ++ left ++ "".pushn ' ' (width - left.length + 2) ++ right ++ "\n")

def paragraph (title : String) (rows : List (String × String)) : String :=
  if rows.isEmpty then "" else "\n" ++ title ++ ":\n" ++ columns rows

namespace Topic

/-- How a command is called. -/
def usage (topic : Topic) : String :=
  let required := topic.requiredFlags.map fun flag =>
    " --" ++ flag.long ++ " <" ++ flag.valueName.getD "" ++ ">"
  let ending := match topic with
    | .program => " [COMMAND]"
    | .config => " <COMMAND>"
    | .help _ => " [COMMAND]..."
    | _ => ""
  " ".intercalate topic.words ++ (if topic.flags.isEmpty then "" else " [OPTIONS]") ++
    String.join required ++ ending

def helpText (topic : Topic) : String :=
  let arguments := match topic with
    | .help _ => [("[COMMAND]...", "Print help for the subcommand(s)")]
    | _ => []
  topic.about ++ "\n\nUsage: " ++ topic.usage ++ "\n" ++
    paragraph "Commands" (topic.children.map fun (name, child) => (name, child.about)) ++
    paragraph "Arguments" arguments ++
    paragraph "Options" (topic.flags.map fun flag => (flag.spelling, flag.about))

end Topic

end FaultDrill.CommandLine
