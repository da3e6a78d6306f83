import FaultDrill.Proofs.Yaml.Member
import FaultDrill.Settings.Loading

/-!
What a document says about settings. A section of a document is written as it should be
if all that is known of it can be read, whatever else it holds; then every value is the
one given for it, or else its default.
-/

namespace FaultDrill

namespace Yaml.Part

/-! ## Sections -/

def reads {α : Type} (read : Part → Option α) (part : Part) : Bool := (read part).isSome

/-- A structure all of whose known members are as they should be, if they are given. -/
def isSection (known : List (String × (Part → Bool))) (part : Part) : Bool :=
  part.isStructure (known.map Prod.fst) &&
    known.all fun entry => (part.member? entry.1).all entry.2

/-- The value of a member, or a default if it is not given. -/
def value {α : Type} (read : Part → Option α) (default : α) (name : String) (part : Part) : α :=
  ((part.member? name).bind read).getD default

/-- What becomes of a member that is a section itself. -/
def nested {α : Type} (make : Part → α) (default : α) (name : String) (part : Part) : α :=
  ((part.member? name).map make).getD default

/-- The part at the end of a path of names. -/
def at? : List String → Part → Option Part
  | [], part => some part
  | name :: path, part => (part.member? name).bind (at? path)

/-- The value at the end of a path, or a default if none is given there. -/
def given {α : Type} (path : List String) (read : Part → Option α) (default : α) (part : Part) : α :=
  ((part.at? path).bind read).getD default

end Yaml.Part

open Yaml (Part)
open Yaml.Part (reads)

/-! ## Reading sections -/

section Reading

variable {α β : Type} {part : Part} {names : List String} {members : List (String × Part)}

theorem bind_ite (condition : Bool) (result : α) (next : α → Option β) :
    (if condition then some result else none) >>= next =
      if condition then next result else none := by
  cases condition <;> rfl

theorem ite_ite (first second : Bool) (result : Option α) :
    (if first then (if second then result else none) else none) =
      if first && second then result else none := by
  cases first <;> rfl

theorem optional_value (lookups : ∀ name ∈ names, members.lookup name = part.member? name)
    {read : Part → Option α} {default : α} {name : String} (known : name ∈ names) :
    Source.optional read default name members =
      if (part.member? name).all (reads read) then some (part.value read default name)
      else none := by
  rw [Source.optional, lookups name known, Part.value]
  cases part.member? name with
  | none => rfl
  | some member => cases result : read member <;> simp [reads, result]

theorem optional_nested (lookups : ∀ name ∈ names, members.lookup name = part.member? name)
    {room : Nat} (enough : room + 1 < part.room) {read : Part → Option α} {fits : Part → Bool}
    {make : Part → α}
    (reading : ∀ member : Part, room < member.room →
      read member = if fits member then some (make member) else none)
    {default : α} {name : String} (known : name ∈ names) :
    Source.optional read default name members =
      if (part.member? name).all fits then some (part.nested make default name) else none := by
  rw [Source.optional, lookups name known, Part.nested]
  cases found : part.member? name with
  | none => rfl
  | some member =>
      -- A section within another has one level of nesting less.
      have left := Part.room_of_member? found
      exact reading member (by omega)

/-- What is read from the members of a section is read from the section. -/
theorem section_eq (known : List (String × (Part → Bool))) (same : known.map Prod.fst = names)
    {result : α} {next : List (String × Part) → Option α} (room : 0 < part.room)
    (rest : ∀ members : List (String × Part),
      (∀ name ∈ names, members.lookup name = part.member? name) →
      next members =
        if known.all fun entry => (part.member? entry.1).all entry.2 then some result else none) :
    Source.members? names part >>= next =
      if part.isSection known then some result else none := by
  have spec := Part.members?_spec names (Nat.ne_of_gt room)
  rw [Part.isSection, same]
  change part.members? names >>= next = _
  cases tidy : part.isStructure names with
  | false =>
      rw [tidy, if_neg (by decide)] at spec
      rw [spec]
      rfl
  | true =>
      rw [tidy, if_pos rfl] at spec
      obtain ⟨members, found, lookups⟩ := spec
      rw [found, Bool.true_and]
      exact rest members lookups

end Reading

/-! ## The sections of settings -/

variable {part : Part}

namespace Target

def isWritten (part : Part) : Bool :=
  part.isSection
    [("base_url", reads Part.text?), ("health_path", reads Part.text?),
     ("endpoint_path", reads Part.text?), ("api_key_header", reads Part.text?),
     ("api_key", reads Part.text?), ("readiness_timeout", reads Source.seconds?),
     ("poll_interval", reads Source.seconds?)]

def ofPart (part : Part) : Target :=
  let standard : Target := {}
  { baseUrl := part.value Part.text? standard.baseUrl "base_url"
    healthPath := part.value Part.text? standard.healthPath "health_path"
    endpointPath := part.value Part.text? standard.endpointPath "endpoint_path"
    keyHeader := part.value Part.text? standard.keyHeader "api_key_header"
    key := part.value Part.text? standard.key "api_key"
    readinessTimeout := part.value Source.seconds? standard.readinessTimeout "readiness_timeout"
    pollInterval := part.value Source.seconds? standard.pollInterval "poll_interval" }

theorem ofSource?_eq (room : 0 < part.room) :
    ofSource? part = if isWritten part then some (ofPart part) else none := by
  unfold ofSource? isWritten
  refine section_eq _ (by rfl) room ?_
  intro members lookups
  simp (disch := decide) only [optional_value lookups, bind_ite, ite_ite, List.all_cons,
    List.all_nil, Bool.and_true]
  rfl

end Target

namespace Route

def isWritten (part : Part) : Bool :=
  part.isSection
    [("name", reads Part.text?), ("listen", reads Part.text?), ("upstream", reads Part.text?)]

def ofPart (part : Part) : Route :=
  let standard : Route := {}
  { name := part.value Part.text? standard.name "name"
    listen := part.value Part.text? standard.listen "listen"
    upstream := part.value Part.text? standard.upstream "upstream" }

theorem ofSource?_eq (room : 0 < part.room) :
    ofSource? part = if isWritten part then some (ofPart part) else none := by
  unfold ofSource? isWritten
  refine section_eq _ (by rfl) room ?_
  intro members lookups
  simp (disch := decide) only [optional_value lookups, bind_ite, ite_ite, List.all_cons,
    List.all_nil, Bool.and_true]
  rfl

end Route

namespace ControlPlane

def isWritten (part : Part) : Bool :=
  part.isSection [("api_url", reads Part.text?), ("route", Route.isWritten)]

def ofPart (part : Part) : ControlPlane :=
  let standard : ControlPlane := {}
  { apiUrl := part.value Part.text? standard.apiUrl "api_url"
    route := part.nested Route.ofPart standard.route "route" }

theorem ofSource?_eq (room : 1 < part.room) :
    ofSource? part = if isWritten part then some (ofPart part) else none := by
  unfold ofSource? isWritten
  refine section_eq _ (by rfl) (by omega) ?_
  intro members lookups
  have route : ∀ standard, Source.optional Route.ofSource? standard "route" members = _ :=
    fun standard => optional_nested lookups room (fun _ => Route.ofSource?_eq) (by decide)
  simp only [route]
  simp (disch := decide) only [optional_value lookups, bind_ite, ite_ite, List.all_cons,
    List.all_nil, Bool.and_true]
  rfl

end ControlPlane

namespace Load

def isWritten (part : Part) : Bool := part.isSection [("concurrency", reads Part.natural?)]

def ofPart (part : Part) : Load :=
  let standard : Load := {}
  { concurrency := part.value Part.natural? standard.concurrency "concurrency" }

theorem ofSource?_eq (room : 0 < part.room) :
    ofSource? part = if isWritten part then some (ofPart part) else none := by
  unfold ofSource? isWritten
  refine section_eq _ (by rfl) room ?_
  intro members lookups
  simp (disch := decide) only [optional_value lookups, bind_ite, List.all_cons, List.all_nil,
    Bool.and_true]
  rfl

end Load

namespace ConnectionPool

def isWritten (part : Part) : Bool :=
  part.isSection
    [("max_idle_per_host", reads Part.natural?), ("idle_timeout", reads Source.seconds?),
     ("connection_timeout", reads Source.seconds?)]

def ofPart (part : Part) : ConnectionPool :=
  let standard : ConnectionPool := {}
  { idlePerHost := part.value Part.natural? standard.idlePerHost "max_idle_per_host"
    idleTimeout := part.value Source.seconds? standard.idleTimeout "idle_timeout"
    connectionTimeout :=
      part.value Source.seconds? standard.connectionTimeout "connection_timeout" }

theorem ofSource?_eq (room : 0 < part.room) :
    ofSource? part = if isWritten part then some (ofPart part) else none := by
  unfold ofSource? isWritten
  refine section_eq _ (by rfl) room ?_
  intro members lookups
  simp (disch := decide) only [optional_value lookups, bind_ite, ite_ite, List.all_cons,
    List.all_nil, Bool.and_true]
  rfl

end ConnectionPool

namespace HttpSettings

def isWritten (part : Part) : Bool :=
  part.isSection
    [("timeout", reads Source.seconds?), ("max_redirects", reads redirects?),
     ("user_agent", reads Part.text?), ("verify_ssl", reads Part.truth?),
     ("connection_pool", ConnectionPool.isWritten)]

def ofPart (part : Part) : HttpSettings :=
  let standard : HttpSettings := {}
  { timeout := part.value Source.seconds? standard.timeout "timeout"
    redirects := part.value redirects? standard.redirects "max_redirects"
    userAgent := part.value Part.text? standard.userAgent "user_agent"
    verifyCertificates := part.value Part.truth? standard.verifyCertificates "verify_ssl"
    pool := part.nested ConnectionPool.ofPart standard.pool "connection_pool" }

theorem ofSource?_eq (room : 1 < part.room) :
    ofSource? part = if isWritten part then some (ofPart part) else none := by
  unfold ofSource? isWritten
  refine section_eq _ (by rfl) (by omega) ?_
  intro members lookups
  have pool : ∀ standard,
      Source.optional ConnectionPool.ofSource? standard "connection_pool" members = _ :=
    fun standard => optional_nested lookups room (fun _ => ConnectionPool.ofSource?_eq) (by decide)
  simp only [pool]
  simp (disch := decide) only [optional_value lookups, bind_ite, ite_ite, List.all_cons,
    List.all_nil, Bool.and_true]
  rfl

end HttpSettings

namespace Output

def isWritten (part : Part) : Bool :=
  part.isSection
    [("output_dir", reads Part.text?), ("file_prefix", reads Part.text?),
     ("title", reads Part.text?), ("write_json", reads Part.truth?)]

def ofPart (part : Part) : Output :=
  let standard : Output := {}
  { directory := part.value Part.text? standard.directory "output_dir"
    filePrefix := part.value Part.text? standard.filePrefix "file_prefix"
    title := part.value Part.text? standard.title "title"
    writeJson := part.value Part.truth? standard.writeJson "write_json" }

theorem ofSource?_eq (room : 0 < part.room) :
    ofSource? part = if isWritten part then some (ofPart part) else none := by
  unfold ofSource? isWritten
  refine section_eq _ (by rfl) room ?_
  intro members lookups
  simp (disch := decide) only [optional_value lookups, bind_ite, ite_ite, List.all_cons,
    List.all_nil, Bool.and_true]
  rfl

end Output

namespace Logging

def level? (part : Part) : Option LogLevel := part.choice?.bind LogLevel.ofName?

def format? (part : Part) : Option LogFormat := part.choice?.bind LogFormat.ofName?

def isWritten (part : Part) : Bool :=
  part.isSection
    [("level", reads level?), ("format", reads format?), ("target", reads LogTarget.ofSource?),
     ("include_location", reads Part.truth?)]

def ofPart (part : Part) : Logging :=
  let standard : Logging := {}
  { level := part.value level? standard.level "level"
    format := part.value format? standard.format "format"
    target := part.value LogTarget.ofSource? standard.target "target"
    includeLocation := part.value Part.truth? standard.includeLocation "include_location" }

theorem ofSource?_eq (room : 0 < part.room) :
    ofSource? part = if isWritten part then some (ofPart part) else none := by
  unfold ofSource? isWritten
  refine section_eq _ (by rfl) room ?_
  intro members lookups
  simp (disch := decide) only [optional_value lookups, bind_ite, ite_ite, List.all_cons,
    List.all_nil, Bool.and_true]
  rfl

end Logging

namespace Settings

def scenarios? : Part → Option (List Scenario) := Source.items Scenario.ofSource?

def isWritten (part : Part) : Bool :=
  part.isSection
    [("target", Target.isWritten), ("control_plane", ControlPlane.isWritten),
     ("load", Load.isWritten), ("http", HttpSettings.isWritten), ("report", Output.isWritten),
     ("logging", Logging.isWritten), ("scenarios", reads scenarios?)]

def ofPart (part : Part) : Settings :=
  let standard : Settings := {}
  { target := part.nested Target.ofPart standard.target "target"
    controlPlane := part.nested ControlPlane.ofPart standard.controlPlane "control_plane"
    load := part.nested Load.ofPart standard.load "load"
    http := part.nested HttpSettings.ofPart standard.http "http"
    output := part.nested Output.ofPart standard.output "report"
    logging := part.nested Logging.ofPart standard.logging "logging"
    scenarios := part.value scenarios? standard.scenarios "scenarios" }

theorem ofSource?_eq (room : 2 < part.room) :
    ofSource? part = if isWritten part then some (ofPart part) else none := by
  unfold ofSource? isWritten
  refine section_eq _ (by rfl) (by omega) ?_
  intro members lookups
  have shallow : 0 + 1 < part.room := by omega
  have target : ∀ standard, Source.optional Target.ofSource? standard "target" members = _ :=
    fun standard => optional_nested lookups shallow (fun _ => Target.ofSource?_eq) (by decide)
  have controlPlane : ∀ standard,
      Source.optional ControlPlane.ofSource? standard "control_plane" members = _ :=
    fun standard => optional_nested lookups room (fun _ => ControlPlane.ofSource?_eq) (by decide)
  have load : ∀ standard, Source.optional Load.ofSource? standard "load" members = _ :=
    fun standard => optional_nested lookups shallow (fun _ => Load.ofSource?_eq) (by decide)
  have http : ∀ standard, Source.optional HttpSettings.ofSource? standard "http" members = _ :=
    fun standard => optional_nested lookups room (fun _ => HttpSettings.ofSource?_eq) (by decide)
  have output : ∀ standard, Source.optional Output.ofSource? standard "report" members = _ :=
    fun standard => optional_nested lookups shallow (fun _ => Output.ofSource?_eq) (by decide)
  have logging : ∀ standard, Source.optional Logging.ofSource? standard "logging" members = _ :=
    fun standard => optional_nested lookups shallow (fun _ => Logging.ofSource?_eq) (by decide)
  simp only [target, controlPlane, load, http, output, logging]
  simp (disch := decide) only [optional_value lookups, bind_ite, ite_ite, List.all_cons,
    List.all_nil, Bool.and_true]
  rfl

end Settings

end FaultDrill
