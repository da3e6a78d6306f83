import FaultDrill.Settings.Error
import FaultDrill.Text.Blank
import FaultDrill.Url.Parser

/-!
Checks that several sections make of their values.
-/

namespace FaultDrill.Check

/-- A text with something to see in it. -/
def filled (field value : String) : Except Flaw Unit :=
  if Text.allBlank value then .error (.blank field) else .ok ()

def positive (field : String) (value : Int) : Except Flaw Unit :=
  if value ≤ 0 then .error (.notPositive field value.repr) else .ok ()

/-- What is not a number is let through. -/
def positiveFloat (field : String) (value : Float) : Except Flaw Unit :=
  if value ≤ 0 then .error (.notPositive field (Layout.prose.render value)) else .ok ()

def someTime (field : String) (value : Duration) : Except Flaw Unit :=
  if value.isZero then .error (.noTime field) else .ok ()

/-- An address to which requests can be sent. -/
def webAddress (field value : String) : Except Flaw Unit := do
  filled field value
  match Url.parse value with
  | .error error => throw (.badUrl field error)
  | .ok url =>
      if url.scheme ∈ ["http", "https"] then pure ()
      else throw (.foreignScheme field url.scheme)

/-- A path from the root of a host. -/
def rootedPath (field value : String) : Except Flaw Unit :=
  if value.toList.head? = some '/' then .ok () else .error (.relativePath field value)

/-- The text in front of the last colon and behind it. -/
def splitLastColon (text : List Char) : Option (List Char × List Char) :=
  if text.contains ':' then
    let behind := (text.reverse.takeWhile (· ≠ ':')).reverse
    some (text.take (text.length - behind.length - 1), behind)
  else none

example : splitLastColon ['a', ':', 'b', ':', 'c'] = some (['a', ':', 'b'], ['c']) := by decide

/-- A host, a colon, and a port of sixteen bits that is not zero. -/
def isHostAndPort (text : String) : Bool :=
  match splitLastColon text.toList with
  | some (host, port) =>
      match Text.unsigned 65536 (String.ofList port) with
      | .ok port => !host.isEmpty && port ≠ 0
      | .error _ => false
  | none => false

def hostAndPort (field value : String) : Except Flaw Unit := do
  filled field value
  if isHostAndPort value then pure () else throw (.badEndpoint field value)

end FaultDrill.Check
