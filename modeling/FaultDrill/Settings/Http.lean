import FaultDrill.Settings.Check
import FaultDrill.Value.Members

/-!
How requests are sent, whomever they are for.
-/

namespace FaultDrill

/-- What becomes of connections between requests. -/
structure ConnectionPool where
  idlePerHost : UInt64 := 10
  idleTimeout : Duration := .ofSeconds 90
  connectionTimeout : Duration := .ofSeconds 5
  deriving DecidableEq

namespace ConnectionPool

def sectionName : String := "http.connection_pool"

def checkValues (pool : ConnectionPool) : Except Flaw Unit := do
  Check.positive "max_idle_per_host" pool.idlePerHost.toNat
  Check.someTime "idle_timeout" pool.idleTimeout
  Check.someTime "connection_timeout" pool.connectionTimeout

def check (pool : ConnectionPool) : Except SettingsError Unit := inSection sectionName pool.checkValues

def toValue (pool : ConnectionPool) : Value :=
  .ofFields
    [("max_idle_per_host", .natural pool.idlePerHost),
     ("idle_timeout", .natural pool.idleTimeout.seconds),
     ("connection_timeout", .natural pool.connectionTimeout.seconds)]

def ofSource? {data : Type} [Source data] (source : data) : Option ConnectionPool := do
  let members ←
    Source.members? ["max_idle_per_host", "idle_timeout", "connection_timeout"] source
  let standard : ConnectionPool := {}
  let time := fun name default => Source.optional Source.seconds? default name members
  some
    { idlePerHost :=
        ← Source.optional Source.natural? standard.idlePerHost "max_idle_per_host" members
      idleTimeout := ← time "idle_timeout" standard.idleTimeout
      connectionTimeout := ← time "connection_timeout" standard.connectionTimeout }

end ConnectionPool

structure HttpSettings where
  timeout : Duration := .ofSeconds 30
  redirects : UInt32 := 10
  userAgent : String := "faultline/0.1.0"
  /-- Whether the certificates of servers are verified. -/
  verifyCertificates : Bool := true
  pool : ConnectionPool := {}
  deriving DecidableEq

namespace HttpSettings

def sectionName : String := "http"

def checkValues (http : HttpSettings) : Except Flaw Unit := do
  Check.someTime "timeout" http.timeout
  Check.filled "user_agent" http.userAgent

def check (http : HttpSettings) : Except SettingsError Unit := do
  inSection sectionName http.checkValues
  http.pool.check

def toValue (http : HttpSettings) : Value :=
  .ofFields
    [("timeout", .natural http.timeout.seconds),
     ("max_redirects", .natural http.redirects.toUInt64), ("user_agent", .text http.userAgent),
     ("verify_ssl", .truth http.verifyCertificates), ("connection_pool", http.pool.toValue)]

/-- A number of 32 bits. -/
def redirects? {data : Type} [Source data] (source : data) : Option UInt32 := do
  let redirects ← Source.natural? source
  if redirects.toNat < UInt32.size then some redirects.toUInt32 else none

def ofSource? {data : Type} [Source data] (source : data) : Option HttpSettings := do
  let members ← Source.members?
    ["timeout", "max_redirects", "user_agent", "verify_ssl", "connection_pool"] source
  let standard : HttpSettings := {}
  some
    { timeout := ← Source.optional Source.seconds? standard.timeout "timeout" members
      redirects := ← Source.optional redirects? standard.redirects "max_redirects" members
      userAgent := ← Source.optional Source.text? standard.userAgent "user_agent" members
      verifyCertificates :=
        ← Source.optional Source.truth? standard.verifyCertificates "verify_ssl" members
      pool := ← Source.optional ConnectionPool.ofSource? standard.pool "connection_pool" members }

end HttpSettings

end FaultDrill
