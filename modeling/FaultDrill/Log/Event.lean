import FaultDrill.Calendar.Rfc3339
import FaultDrill.Json.Printer
import FaultDrill.Settings.Logging

/-!
Events and the lines they make in a log.
-/

namespace FaultDrill.Log

structure Event where
  level : LogLevel
  /-- Who reports the event. -/
  reporter : String
  message : String
  fields : List (String × Value) := []
  /-- The part of the program that the event comes from, and how far into it. -/
  location : String × UInt64

namespace Event

def levelText (event : Event) : String :=
  String.ofList (event.level.name.toList.map Char.toUpper)

/-- A field as it stands in a line of text. -/
def fieldText : Value → String
  | .text text => text
  | value => Json.compact value

/-- The fields behind a message, each behind a separator. -/
def fieldsText (separator equals : String) (event : Event) : String :=
  String.join (event.fields.map fun (name, value) => separator ++ name ++ equals ++ fieldText value)

def locationText (event : Event) : String :=
  event.location.1 ++ ":" ++ event.location.2.toNat.repr

/-- An event as a value. -/
def toValue (time : Instant) (located : Bool) (event : Event) : Value :=
  .ofFields (
    [("timestamp", .text time.toRfc3339), ("level", .text event.levelText),
     ("fields", .ofFields (("message", .text event.message) :: event.fields)),
     ("target", .text event.reporter)] ++
    if located then
      [("filename", .text event.location.1), ("line_number", .natural event.location.2)]
    else [])

/-- An event on one line. -/
def line (time : Instant) (located : Bool) (event : Event) : String :=
  let level := event.levelText
  let padding := "".pushn ' ' (5 - level.length)
  let place := if located then event.locationText ++ ": " else ""
  time.toRfc3339 ++ " " ++ padding ++ level ++ " " ++ event.reporter ++ ": " ++ place ++
    event.message ++ event.fieldsText " " "="

/-- An event over two lines and an empty one. The location is always told. -/
def paragraph (time : Instant) (event : Event) : String :=
  "  " ++ time.toRfc3339 ++ " " ++ event.levelText ++ " " ++ event.reporter ++ ": " ++
    event.message ++ event.fieldsText ", " ": " ++ "\n    at " ++ event.locationText ++ "\n"

/-- What an event adds to a log. -/
def render (format : LogFormat) (time : Instant) (located : Bool) (event : Event) : String :=
  match format with
  | .json => Json.compact (event.toValue time located) ++ "\n"
  | .text | .compact => event.line time located ++ "\n"
  | .pretty => event.paragraph time ++ "\n"

end Event

end FaultDrill.Log
