/-!
Headers of requests. Names are compared without regard to case.
-/

namespace FaultDrill.Http

/-- Characters of a header name. -/
def isTokenChar (char : Char) : Bool :=
  char.isAlphanum || "!#$%&*+-.^_|~\x60".toList.contains char || char.toNat = 39

/-- A header name is not empty and of a length that fits sixteen bits. -/
def isHeaderName (name : String) : Bool :=
  !name.isEmpty && name.utf8ByteSize < 65536 && name.toList.all isTokenChar

/-- A header value holds no control characters except tabs. -/
def isHeaderValue (value : String) : Bool :=
  value.toList.all fun char => char = '\t' || (0x20 ≤ char.toNat && char.toNat ≠ 0x7F)

/-- Names in lower case with their values. No name comes twice. -/
abbrev Headers := List (String × String)

inductive HeaderError where
  | badName (name : String)
  | badValue (name : String)
  deriving DecidableEq

def HeaderError.message : HeaderError → String
  | .badName name => s!"invalid name '{name}'"
  | .badValue name => s!"invalid value for '{name}'"

namespace Headers

/-- Sets the value of a header, whatever it was. -/
def set (headers : Headers) (name value : String) : Headers :=
  match headers with
  | [] => [(name, value)]
  | (first, old) :: rest =>
      if first = name then (first, value) :: rest else (first, old) :: set rest name value

/-- Adds headers one after another. The first that is not well formed is reported,
its name before its value. -/
def add (headers : Headers) : List (String × String) → Except HeaderError Headers
  | [] => .ok headers
  | (name, value) :: rest =>
      if !isHeaderName name then .error (.badName name)
      else if !isHeaderValue value then .error (.badValue name)
      else add (headers.set (String.ofList (name.toList.map Char.toLower)) value) rest

def ofList (pairs : List (String × String)) : Except HeaderError Headers := add [] pairs

end Headers

end FaultDrill.Http
