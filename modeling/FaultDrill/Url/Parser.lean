import FaultDrill.Url.Ipv6
import FaultDrill.Url.Name
import FaultDrill.Url.Path

/-!
Reading addresses. Blanks around an address, and tabs and line breaks within, do
not count. A reader may start from an address that is already known, and then a
text without a scheme is read as a way on from there.
-/

namespace FaultDrill.Url

/-! The pieces of an address -/

def isSchemeChar (char : Char) : Bool :=
  char.isAlphanum || char = '+' || char = '-' || char = '.'

/-- The scheme in lower case and the text behind its colon. -/
def splitScheme (text : List Char) : Option (String × List Char) :=
  let scheme := text.takeWhile isSchemeChar
  match text.head?, text.drop scheme.length with
  | some first, ':' :: rest =>
      if first.isAlpha then some (String.ofList (scheme.map Char.toLower), rest) else none
  | _, _ => none

/-- What ends the part of an address that names the host. -/
def endsAuthority (isSpecial : Bool) (char : Char) : Bool :=
  char = '/' || char = '?' || char = '#' || (isSpecial && char = '\\')

/-- The text behind the last at sign, if there is one. -/
def behindUser (authority : List Char) : Option (List Char) :=
  if authority.contains '@' then some (authority.reverse.takeWhile (· ≠ '@')).reverse else none

/-- The host and, behind a colon outside brackets, the port. -/
def splitPort (isBracketed : Bool) : List Char → List Char × Option (List Char)
  | [] => ([], none)
  | char :: rest =>
      if char = ':' && !isBracketed then ([], some rest)
      else
        let isBracketed := char = '[' || (isBracketed && char ≠ ']')
        let (host, port) := splitPort isBracketed rest
        (char :: host, port)

/-- A port is a number of sixteen bits, or nothing. -/
def port? (scheme : String) (text : List Char) : Except UrlError (Option UInt16) :=
  if text.isEmpty then .ok none
  else
    match digitsBelow? 10 text with
    | some port =>
        if 65535 < port then .error .badPort
        else
          let port := UInt16.ofNat port
          .ok (if impliedPort scheme = some port then none else some port)
    | none => .error .badPort

/-- A host between brackets. -/
def bracketedHost (text : List Char) : Except UrlError Host :=
  match text.reverse with
  | ']' :: inner =>
      match ipv6? (inner.reverse.drop 1) with
      | some groups => .ok (.ipv6 groups)
      | none => .error .badIpv6
  | _ => .error .badIpv6

/-- The host of a scheme whose rules are known. -/
def specialHost (text : List Char) : Except UrlError Host :=
  if text.head? = some '[' then bracketedHost text
  else
    match name? (unescape text) with
    | none => .error .badName
    | some [] => .error .noHost
    | some name =>
        if isNumericHost name then
          match ipv4? name with
          | some address => .ok (.ipv4 address)
          | none => .error .badIpv4
        else .ok (.name (String.ofList name))

/-- The host of any other scheme, which is kept as it is. -/
def opaqueHost (text : List Char) : Except UrlError Host :=
  if text.head? = some '[' then bracketedHost text
  else if text.any fun char => char.toNat = 0 || " #/:<>?@[\\]^|".toList.contains char then
    .error .badHostCharacter
  else .ok (.name (String.ofList (escape isOutsidePrintable text)))

/-- Path and query of the text behind the host; a fragment is dropped. -/
def splitQuery (text : List Char) : List Char × Option (List Char) :=
  let text := text.takeWhile (· ≠ '#')
  let path := text.takeWhile (· ≠ '?')
  match text.drop path.length with
  | [] => (path, none)
  | _ :: query => (path, some query)

def queryText (query : List Char) : String := String.ofList (escape isSetApartInQuery query)

/-- The path of an address with a host, walked from the segments reached. -/
def pathFrom (reached : List (List Char)) (path : List Char) : String :=
  pathOf (walk reached (splitPath path))

/-! Whole addresses -/

/-- A user needs a host to follow. A lone at sign names no user if the text ends
there, and a lone colon in front of it never does. -/
def needsHost (text authority : List Char) : Bool :=
  authority.contains '@' && authority ≠ [':', '@'] && text ≠ ['@']

/-- The text behind two slashes: host, port, path and query. -/
def readAuthority (scheme : String) (text : List Char) : Except UrlError Url := do
  let isSpecial := isSpecialScheme scheme
  let authority := text.takeWhile fun char => !endsAuthority isSpecial char
  let (path, query) := splitQuery (text.drop authority.length)
  let (hostText, portText) := splitPort false ((behindUser authority).getD authority)
  if hostText.isEmpty && (isHostScheme scheme || needsHost text authority || portText.isSome) then
    throw .noHost
  let host ← if isSpecial then specialHost hostText else opaqueHost hostText
  let port ← match portText with
    | some text => port? scheme (text.takeWhile (· ≠ '\\'))
    | none => .ok none
  return {
    scheme := scheme
    host := some host
    port := port
    path := if isSpecial then pathFrom [] (path.drop 1) else String.ofList path
    query := query.map queryText }

/-- The host of a file may be left out, and a drive letter is none. -/
def readFile (text : List Char) : Except UrlError Url := do
  let isSlash (char : Char) : Bool := char = '/' || char = '\\'
  let (hostText, path) :=
    match text with
    | first :: second :: rest =>
        if isSlash first && isSlash second then
          let host := rest.takeWhile fun char => !endsAuthority true char
          (host, rest.drop host.length)
        else ([], text)
    | _ => ([], text)
  let isDrive := hostText.length = 2 && hostText.head?.any Char.isAlpha &&
    (hostText.getLast? = some ':' || hostText.getLast? = some '|')
  let host ← if hostText.isEmpty || isDrive then .ok none
    else (specialHost hostText).map some
  return { scheme := "file", host := host, port := none, path := String.ofList path, query := none }

/-- The text behind the scheme. -/
def readScheme (scheme : String) (text : List Char) : Except UrlError Url :=
  if isHostScheme scheme then
    readAuthority scheme (text.dropWhile fun char => char = '/' || char = '\\')
  else if scheme = "file" then readFile text
  else
    match text with
    | '/' :: '/' :: rest => readAuthority scheme rest
    | _ => .ok { scheme := scheme, host := none, port := none, path := String.ofList text, query := none }

/-- The characters of an address that count. -/
def significant (text : String) : List Char :=
  let isSpace (char : Char) : Bool := char.toNat ≤ 0x20
  let chars := ((text.toList.dropWhile isSpace).reverse.dropWhile isSpace).reverse
  chars.filter fun char => char ≠ '\t' && char ≠ '\n' && char ≠ '\r'

def parse (text : String) : Except UrlError Url :=
  match splitScheme (significant text) with
  | some (scheme, rest) => readScheme scheme rest
  | none => .error .noScheme

/-- The way on from an address that has a host. -/
def follow (base : Url) (text : List Char) : Except UrlError Url :=
  let isSlash (char : Char) : Bool := char = '/' || char = '\\'
  match text with
  | [] => .ok base
  | first :: rest =>
      if isSlash first && rest.head?.any isSlash then
        readScheme base.scheme text
      else
        let (path, query) := splitQuery text
        let query := query.map queryText
        if path.isEmpty then
          .ok { base with query := if first = '#' then base.query else query }
        else if isSlash first then
          .ok { base with path := pathFrom [] (path.drop 1), query := query }
        else
          .ok { base with path := pathFrom (segmentsOf base.path).dropLast path, query := query }

/-- The address that a text means to someone who is at `base`. -/
def join (base : Url) (text : String) : Except UrlError Url :=
  let chars := significant text
  match splitScheme chars with
  | none => base.follow chars
  | some (scheme, rest) =>
      let goesOn := scheme = base.scheme &&
        !(rest.head?.any (fun char => char = '/' || char = '\\') &&
          (rest.drop 1).head?.any (fun char => char = '/' || char = '\\'))
      if goesOn then base.follow rest else readScheme scheme rest

end FaultDrill.Url
