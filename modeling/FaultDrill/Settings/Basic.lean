import FaultDrill.Scenario.Record
import FaultDrill.Scenario.Sequence
import FaultDrill.Settings.ControlPlane
import FaultDrill.Settings.Http
import FaultDrill.Settings.Load
import FaultDrill.Settings.Logging
import FaultDrill.Settings.Output
import FaultDrill.Settings.Target

/-!
The settings of a drill: six sections and the scenarios to run. Every value has a
default, so that no settings at all are settings too.
-/

namespace FaultDrill

structure Settings where
  target : Target := {}
  controlPlane : ControlPlane := {}
  load : Load := {}
  http : HttpSettings := {}
  output : Output := {}
  logging : Logging := {}
  scenarios : List Scenario := Scenario.standard

namespace Settings

/-- Checks the sections in order, then the scenarios. The first flaw is reported. -/
def check (settings : Settings) : Except SettingsError Unit := do
  settings.target.check
  settings.controlPlane.check
  settings.load.check
  settings.http.check
  settings.output.check
  settings.logging.check
  if settings.scenarios.isEmpty then throw (.flawed "scenarios" .noScenario)
  (Scenario.checkSequence settings.scenarios).mapError .scenarios

/-- Latencies at which no request can succeed, for they are longer than it may
take: the names of the scenarios, their latencies, and the timeout, the last two
in milliseconds. -/
def hopeless (settings : Settings) : List (String × UInt64 × Nat) :=
  let timeout := settings.http.timeout.toNat / 1000000
  settings.scenarios.filterMap fun scenario =>
    match scenario.fault with
    | some (.latency delay _) =>
        if timeout ≤ delay.toNat then some (scenario.name, delay, timeout) else none
    | _ => none

/-- The texts of the warnings about settings that can be used all the same. -/
def warnings (settings : Settings) : List String :=
  settings.hopeless.map fun (name, delay, timeout) =>
    s!"Scenario '{name}' injects {delay}ms of latency but http.timeout is {timeout}ms; its requests will time out and count as errors"

def toValue (settings : Settings) : Value :=
  .ofFields
    [("target", settings.target.toValue), ("control_plane", settings.controlPlane.toValue),
     ("load", settings.load.toValue), ("http", settings.http.toValue),
     ("report", settings.output.toValue), ("logging", settings.logging.toValue),
     ("scenarios", .list (settings.scenarios.map Scenario.toValue))]

def names : List String :=
  ["target", "control_plane", "load", "http", "report", "logging", "scenarios"]

def ofSource? {data : Type} [Source data] (source : data) : Option Settings := do
  let members ← Source.members? names source
  let standard : Settings := {}
  some
    { target := ← Source.optional Target.ofSource? standard.target "target" members
      controlPlane :=
        ← Source.optional ControlPlane.ofSource? standard.controlPlane "control_plane" members
      load := ← Source.optional Load.ofSource? standard.load "load" members
      http := ← Source.optional HttpSettings.ofSource? standard.http "http" members
      output := ← Source.optional Output.ofSource? standard.output "report" members
      logging := ← Source.optional Logging.ofSource? standard.logging "logging" members
      scenarios :=
        ← Source.optional (Source.items Scenario.ofSource?) standard.scenarios "scenarios" members }

end Settings

end FaultDrill
