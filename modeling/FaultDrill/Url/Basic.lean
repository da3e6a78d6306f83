/-!
Addresses on the web: scheme, host, port, path and query. Passwords and
fragments are not kept, since nothing here sends them.
-/

namespace FaultDrill

/-- Why a text is no address. -/
inductive UrlError where
  /-- It does not start with a scheme. -/
  | noScheme
  | noHost
  /-- The host is not a name that can be looked up. -/
  | badName
  /-- The host of an unfamiliar scheme has a character no host has. -/
  | badHostCharacter
  | badPort
  | badIpv4
  | badIpv6
  deriving DecidableEq

def UrlError.message : UrlError → String
  | .noScheme => "relative URL without a base"
  | .noHost => "empty host"
  | .badName => "invalid international domain name"
  | .badHostCharacter => "invalid domain character"
  | .badPort => "invalid port number"
  | .badIpv4 => "invalid IPv4 address"
  | .badIpv6 => "invalid IPv6 address"

inductive Host where
  | name (labels : String)
  | ipv4 (address : Nat)
  /-- Eight groups of sixteen bits. -/
  | ipv6 (groups : List Nat)
  deriving DecidableEq

structure Url where
  scheme : String
  host : Option Host
  /-- Absent if it is the one the scheme implies. -/
  port : Option UInt16
  /-- Starts with a slash if there is a host. -/
  path : String
  query : Option String
  deriving DecidableEq

namespace Url

/-- Schemes whose addresses always have a host and accept backslashes for slashes. -/
def isHostScheme (scheme : String) : Bool :=
  scheme ∈ ["http", "https", "ws", "wss", "ftp"]

/-- Host schemes, and files, share the rules for hosts and paths. -/
def isSpecialScheme (scheme : String) : Bool :=
  isHostScheme scheme || scheme == "file"

def impliedPort (scheme : String) : Option UInt16 :=
  match scheme with
  | "http" | "ws" => some 80
  | "https" | "wss" => some 443
  | "ftp" => some 21
  | _ => none

def withoutSlashes (text : List Char) : List Char := (text.reverse.dropWhile (· = '/')).reverse

/-- The text of an address with a path behind it; slashes at the end of the
address do not count. -/
def withPath (address path : String) : String :=
  String.ofList (withoutSlashes address.toList) ++ path

/-- What a request for the address asks for. -/
def requestTarget (url : Url) : String :=
  match url.query with
  | some query => url.path ++ "?" ++ query
  | none => url.path

end Url

end FaultDrill
