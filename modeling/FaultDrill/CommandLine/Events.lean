import FaultDrill.Log.Event
import FaultDrill.Settings.Basic

/-!
What is logged on the way to a drill.
-/

namespace FaultDrill.CommandLine

def loggingStarted : Log.Event where
  level := .debug
  reporter := "faultline"
  message := "Logging initialized"
  location := ("CommandLine/Program.lean", 1)

def drillStarted (settings : Settings) : Log.Event where
  level := .info
  reporter := "faultline"
  message := "Starting chaos run"
  fields :=
    [("target_url", .text settings.target.baseUrl),
     ("control_plane", .text settings.controlPlane.apiUrl),
     ("scenarios", .natural (UInt64.ofNat settings.scenarios.length)),
     ("concurrency", .natural settings.load.concurrency)]
  location := ("CommandLine/Program.lean", 2)

def clientsPrepared (http : HttpSettings) : Log.Event where
  level := .debug
  reporter := "faultline_http::client"
  message :=
    let seconds := http.timeout.seconds
    s!"Creating HttpManager with timeout: {seconds}s"
  location := ("Http/Client.lean", 1)

def loadClientBuilt (settings : Settings) : Log.Event where
  level := .debug
  reporter := "faultline_http::client"
  message := "Building load-generation client"
  fields :=
    [("pool_size", .natural (max settings.http.pool.idlePerHost settings.load.concurrency)),
     ("headers", .natural 1)]
  location := ("Http/Client.lean", 2)

def waitStarted (target : Target) : Log.Event where
  level := .info
  reporter := "faultline_engine::health"
  message := "Waiting for system under test"
  fields :=
    [("url", .text target.healthUrl), ("timeout_secs", .natural target.readinessTimeout.seconds)]
  location := ("Probe.lean", 1)

def waitTimedOut (target : Target) : Log.Event where
  level := .warn
  reporter := "faultline_engine::health"
  message := "Readiness timeout elapsed"
  fields := [("url", .text target.healthUrl)]
  location := ("Probe.lean", 2)

end FaultDrill.CommandLine
