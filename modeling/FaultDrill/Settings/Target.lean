import FaultDrill.Http.Header
import FaultDrill.Settings.Check
import FaultDrill.Value.Members

/-!
The system under test: where it is, how its health is asked for, and which
request makes up the load.
-/

namespace FaultDrill

structure Target where
  baseUrl : String := "http://localhost:8080"
  healthPath : String := "/actuator/health"
  endpointPath : String := "/api/v1/users/1"
  /-- The header that carries the key. -/
  keyHeader : String := "X-API-Key"
  key : String := "test-key"
  readinessTimeout : Duration := .ofSeconds 60
  pollInterval : Duration := .ofSeconds 1
  deriving DecidableEq

namespace Target

def sectionName : String := "target"

def healthUrl (target : Target) : String := Url.withPath target.baseUrl target.healthPath

def endpointUrl (target : Target) : String := Url.withPath target.baseUrl target.endpointPath

def checkValues (target : Target) : Except Flaw Unit := do
  Check.webAddress "base_url" target.baseUrl
  Check.rootedPath "health_path" target.healthPath
  Check.rootedPath "endpoint_path" target.endpointPath
  Check.filled "api_key_header" target.keyHeader
  if !target.keyHeader.toList.all Http.isTokenChar then throw (.badHeaderName target.keyHeader)
  Check.someTime "readiness_timeout" target.readinessTimeout
  Check.someTime "poll_interval" target.pollInterval
  if target.readinessTimeout.toNat < target.pollInterval.toNat then
    throw (.slowPolling target.pollInterval.seconds target.readinessTimeout.seconds)

def check (target : Target) : Except SettingsError Unit := inSection sectionName target.checkValues

/-! Targets in data. Times are in whole seconds. -/

def toValue (target : Target) : Value :=
  .ofFields
    [("base_url", .text target.baseUrl), ("health_path", .text target.healthPath),
     ("endpoint_path", .text target.endpointPath), ("api_key_header", .text target.keyHeader),
     ("api_key", .text target.key), ("readiness_timeout", .natural target.readinessTimeout.seconds),
     ("poll_interval", .natural target.pollInterval.seconds)]

def names : List String :=
  ["base_url", "health_path", "endpoint_path", "api_key_header", "api_key", "readiness_timeout",
   "poll_interval"]

def ofSource? {data : Type} [Source data] (source : data) : Option Target := do
  let members ← Source.members? names source
  let standard : Target := {}
  let text := fun name default => Source.optional Source.text? default name members
  let time := fun name default => Source.optional Source.seconds? default name members
  some
    { baseUrl := ← text "base_url" standard.baseUrl
      healthPath := ← text "health_path" standard.healthPath
      endpointPath := ← text "endpoint_path" standard.endpointPath
      keyHeader := ← text "api_key_header" standard.keyHeader
      key := ← text "api_key" standard.key
      readinessTimeout := ← time "readiness_timeout" standard.readinessTimeout
      pollInterval := ← time "poll_interval" standard.pollInterval }

end Target

end FaultDrill
