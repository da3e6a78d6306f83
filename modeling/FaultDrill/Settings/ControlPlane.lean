import FaultDrill.Settings.Check
import FaultDrill.Value.Members

/-!
The control plane, which puts faults on the route from the system under test to
its dependency.
-/

namespace FaultDrill

structure Route where
  name : String := "redis_proxy"
  /-- Where the route takes connections. -/
  listen : String := "0.0.0.0:6379"
  /-- Where it passes them on to. -/
  upstream : String := "redis:6379"
  deriving DecidableEq

namespace Route

def sectionName : String := "control_plane.route"

/-- The name becomes a part of a path, so it has no slash. -/
def checkValues (route : Route) : Except Flaw Unit := do
  Check.filled "name" route.name
  if route.name.toList.contains '/' then throw (.slashInRoute route.name)
  Check.hostAndPort "listen" route.listen
  Check.hostAndPort "upstream" route.upstream

def check (route : Route) : Except SettingsError Unit := inSection sectionName route.checkValues

def toValue (route : Route) : Value :=
  .ofFields
    [("name", .text route.name), ("listen", .text route.listen),
     ("upstream", .text route.upstream)]

def ofSource? {data : Type} [Source data] (source : data) : Option Route := do
  let members ← Source.members? ["name", "listen", "upstream"] source
  let standard : Route := {}
  let text := fun name default => Source.optional Source.text? default name members
  some
    { name := ← text "name" standard.name
      listen := ← text "listen" standard.listen
      upstream := ← text "upstream" standard.upstream }

end Route

structure ControlPlane where
  apiUrl : String := "http://localhost:8474"
  route : Route := {}
  deriving DecidableEq

namespace ControlPlane

def sectionName : String := "control_plane"

def check (controlPlane : ControlPlane) : Except SettingsError Unit := do
  inSection sectionName (Check.webAddress "api_url" controlPlane.apiUrl)
  controlPlane.route.check

def toValue (controlPlane : ControlPlane) : Value :=
  .ofFields [("api_url", .text controlPlane.apiUrl), ("route", controlPlane.route.toValue)]

def ofSource? {data : Type} [Source data] (source : data) : Option ControlPlane := do
  let members ← Source.members? ["api_url", "route"] source
  let standard : ControlPlane := {}
  some
    { apiUrl := ← Source.optional Source.text? standard.apiUrl "api_url" members
      route := ← Source.optional Route.ofSource? standard.route "route" members }

end ControlPlane

end FaultDrill
