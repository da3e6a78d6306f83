import FaultDrill.Settings.Logging
import FaultDrill.Text.Reader

/-!
Which events are logged. A filter is a list of rules, written with commas in
between. A rule is a level, the start of the names of those that report events,
or both: `warn,faultline=debug` admits warnings, and more of `faultline`.
-/

namespace FaultDrill

/-- The place of a level on the way to the most detailed one. -/
def LogLevel.detail : LogLevel → Nat
  | .error => 1
  | .warn => 2
  | .info => 3
  | .debug => 4
  | .trace => 5

namespace Log

/-- Whose events are admitted, and how detailed they may be. -/
structure Rule where
  /-- The start of the name of the reporter; everybody's if absent. -/
  reporter : Option String
  /-- Whether only events inside of a span are meant. -/
  inSpan : Bool
  /-- The most detail that is admitted, from none to all. -/
  detail : Nat
  deriving DecidableEq

namespace Rule

/-- The detail that a word or a digit stands for. -/
def detail? (word : List Char) : Option Nat :=
  match String.ofList (word.map Char.toLower) with
  | "off" | "0" => some 0
  | "1" => some LogLevel.error.detail
  | "2" => some LogLevel.warn.detail
  | "3" => some LogLevel.info.detail
  | "4" => some LogLevel.debug.detail
  | "5" => some LogLevel.trace.detail
  | word => (LogLevel.ofName? word).map LogLevel.detail

/-- Characters of the names of reporters. All beyond the plain ones count as letters. -/
def isNameChar (char : Char) : Bool :=
  char.isAlphanum || char = '_' || char = ':' || char = '-' || 128 ≤ char.toNat

/-- The name of a reporter or a span in brackets, and the text behind it. -/
def readPiece (rule : Rule) (text : List Char) : Option (Rule × List Char) :=
  match text with
  | '[' :: rest =>
      match rest.dropWhile (· ≠ ']') with
      | _ :: rest => some ({ rule with inSpan := true }, rest)
      | [] => none
  | _ =>
      let name := text.takeWhile isNameChar
      if name.isEmpty then none
      else some ({ rule with reporter := some (String.ofList name) }, text.drop name.length)

/-- The detail behind a name. All is admitted if none is given. -/
def readDetail (rule : Rule) (text : List Char) : Option Rule :=
  match text with
  | [] => some { rule with detail := LogLevel.trace.detail }
  | ['='] => some { rule with detail := LogLevel.trace.detail }
  | '=' :: word => (detail? word).map fun detail => { rule with detail := detail }
  | _ => none

def ofText? (text : List Char) : Option Rule :=
  match detail? text with
  | some detail => some ⟨none, false, detail⟩
  | none => do
      let (rule, rest) ← readPiece ⟨none, false, 0⟩ text
      match readPiece rule rest with
      | some (rule, rest) => readDetail rule rest
      | none => readDetail rule rest

/-- Whether a rule is about a reporter's events outside of spans. -/
def concerns (reporter : String) (rule : Rule) : Bool :=
  !rule.inSpan && rule.reporter.all fun start => start.toList.isPrefixOf reporter.toList

/-- How closely a rule names those it is about. -/
def closeness (rule : Rule) : Nat := rule.reporter.elim 0 (·.utf8ByteSize + 1)

end Rule

abbrev Filter := List Rule

namespace Filter

/-- Without any rule, errors are admitted. -/
def ofText? (text : String) : Option Filter := do
  let written := (Text.splitAt ',' text.toList).filter fun part => !part.isEmpty
  match ← written.mapM Rule.ofText? with
  | [] => some [⟨none, false, LogLevel.error.detail⟩]
  | rules => some rules

/-- The last of the closest rules about a reporter. -/
def ruleFor (filter : Filter) (reporter : String) : Option Rule :=
  (filter.filter (Rule.concerns reporter)).foldl (fun best rule =>
    match best with
    | some best => if rule.closeness < best.closeness then some best else some rule
    | none => some rule) none

/-- Whether an event of a level is logged. -/
def admits (filter : Filter) (reporter : String) (level : LogLevel) : Bool :=
  (filter.ruleFor reporter).any fun rule => level.detail ≤ rule.detail

/-- The filter that a text asks for. If it asks for none, the second text may,
and otherwise all is admitted up to information. -/
def choose (text : String) (second : Option String) : Filter :=
  ((ofText? text).orElse fun _ => second.bind ofText?).getD [⟨none, false, LogLevel.info.detail⟩]

example : (choose "warn,faultline=debug" none).admits "faultline" .debug = true := by
  decide +kernel
example : (choose "a=b=c" none).admits "faultline" .debug = false := by decide +kernel

end Filter

end Log

end FaultDrill
