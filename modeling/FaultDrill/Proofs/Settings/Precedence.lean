import FaultDrill.Proofs.Settings.Checking
import FaultDrill.Proofs.Settings.Document

/-!
Which of the sources of a setting counts. The environment comes before the document,
the document before the default.
-/

namespace FaultDrill

open Yaml (Part)

namespace Settings

/-! ## The environment -/

def number? (text : String) : Option UInt64 := (Text.unsigned64 text).toOption

def seconds? (text : String) : Option Duration := (number? text).map .ofSeconds

section Environment

variable {α : Type} (environment : Environment) (start : String)

/-- What a variable says, or something else if it is not set. -/
def chosen (name : String) (parse : String → Option α) (otherwise : α) : α :=
  ((environment (variableName start name)).bind parse).getD otherwise

/-- A variable that says something, if it is set. -/
def parses (name : String) (parse : String → Option α) : Bool :=
  (environment (variableName start name)).all fun text => (parse text).isSome

/-- Numbers are numbers and words are known. -/
def isUnderstood : Bool :=
  parses environment start "READINESS_TIMEOUT" number? &&
    parses environment start "CONCURRENCY" number? &&
    parses environment start "HTTP_TIMEOUT" number? &&
    parses environment start "LOG_LEVEL" LogLevel.ofWord? &&
    parses environment start "LOG_FORMAT" LogFormat.ofWord?

/-- Settings with all variables in their places. -/
def overridden (settings : Settings) : Settings where
  target :=
    { settings.target with
      baseUrl := chosen environment start "TARGET_URL" some settings.target.baseUrl
      key := chosen environment start "API_KEY" some settings.target.key
      readinessTimeout :=
        chosen environment start "READINESS_TIMEOUT" seconds? settings.target.readinessTimeout }
  controlPlane :=
    { settings.controlPlane with
      apiUrl := chosen environment start "CONTROL_PLANE_URL" some settings.controlPlane.apiUrl }
  load :=
    { settings.load with
      concurrency := chosen environment start "CONCURRENCY" number? settings.load.concurrency }
  http :=
    { settings.http with
      timeout := chosen environment start "HTTP_TIMEOUT" seconds? settings.http.timeout }
  output :=
    { settings.output with
      directory := chosen environment start "REPORT_DIR" some settings.output.directory }
  logging :=
    { settings.logging with
      level := chosen environment start "LOG_LEVEL" LogLevel.ofWord? settings.logging.level
      format := chosen environment start "LOG_FORMAT" LogFormat.ofWord? settings.logging.format }
  scenarios := settings.scenarios

/-! A place in the settings is where the old value can be put back without a change. -/

theorem overrideText_eq (settings : Settings) (name : String)
    (place : String → Settings → Settings) (old : String)
    (same : place old settings = settings) :
    overrideText environment start name place settings =
      place (chosen environment start name some old) settings := by
  unfold overrideText chosen
  cases environment (variableName start name) with
  | none => exact same.symm
  | some text => rfl

variable {environment start} {name : String}

theorem overrideNumber_eq (settings : Settings) (convert : UInt64 → α)
    (place : α → Settings → Settings) (old : α)
    (understood : parses environment start name number? = true)
    (same : place old settings = settings) :
    overrideNumber environment start name (fun number => place (convert number)) settings =
      .ok (place (chosen environment start name (fun text => (number? text).map convert) old)
        settings) := by
  unfold overrideNumber chosen
  unfold parses at understood
  cases set : environment (variableName start name) with
  | none => exact congrArg Except.ok same.symm
  | some text =>
      rw [set] at understood
      cases parsed : Text.unsigned64 text with
      | error error => simp [number?, parsed, Except.toOption] at understood
      | ok number => simp [number?, parsed, Except.toOption]

theorem overrideWord_eq (settings : Settings) {ofWord? : String → Option α}
    (place : α → Settings → Settings) (old : α)
    (understood : parses environment start name ofWord? = true)
    (same : place old settings = settings) :
    overrideWord environment start name ofWord? place settings =
      .ok (place (chosen environment start name ofWord? old) settings) := by
  unfold overrideWord chosen
  unfold parses at understood
  cases set : environment (variableName start name) with
  | none => exact congrArg Except.ok same.symm
  | some text =>
      rw [set] at understood
      cases word : ofWord? text with
      | none => simp [word] at understood
      | some choice => simp [word]

variable {settings result : Settings}

theorem parses_of_overrideNumber {place : UInt64 → Settings → Settings}
    (placed : overrideNumber environment start name place settings = .ok result) :
    parses environment start name number? = true := by
  unfold overrideNumber at placed
  unfold parses
  cases set : environment (variableName start name) with
  | none => rfl
  | some text =>
      rw [set] at placed
      cases parsed : Text.unsigned64 text with
      | error error => simp [parsed] at placed
      | ok number => simp [number?, parsed, Except.toOption]

theorem parses_of_overrideWord {ofWord? : String → Option α} {place : α → Settings → Settings}
    (placed : overrideWord environment start name ofWord? place settings = .ok result) :
    parses environment start name ofWord? = true := by
  unfold overrideWord at placed
  unfold parses
  cases set : environment (variableName start name) with
  | none => rfl
  | some text =>
      rw [set] at placed
      cases word : ofWord? text with
      | none => simp [word] at placed
      | some choice => simp [word]

/-- Every variable ends up in its own place, whatever the others say. -/
theorem override_of_isUnderstood (understood : isUnderstood environment start = true) :
    settings.override environment start = .ok (settings.overridden environment start) := by
  simp only [isUnderstood, Bool.and_eq_true] at understood
  obtain ⟨⟨⟨⟨readiness, concurrency⟩, timeout⟩, level⟩, format⟩ := understood
  -- Each variable by itself, whatever settings it finds.
  have targetUrl (settings : Settings) :=
    overrideText_eq environment start settings "TARGET_URL"
      (fun url settings => { settings with target.baseUrl := url }) settings.target.baseUrl rfl
  have apiKey (settings : Settings) :=
    overrideText_eq environment start settings "API_KEY"
      (fun key settings => { settings with target.key := key }) settings.target.key rfl
  have readinessTimeout (settings : Settings) :=
    overrideNumber_eq settings .ofSeconds
      (fun time settings => { settings with target.readinessTimeout := time })
      settings.target.readinessTimeout readiness rfl
  have controlPlaneUrl (settings : Settings) :=
    overrideText_eq environment start settings "CONTROL_PLANE_URL"
      (fun url settings => { settings with controlPlane.apiUrl := url })
      settings.controlPlane.apiUrl rfl
  have loadConcurrency (settings : Settings) :=
    overrideNumber_eq settings (fun number => number)
      (fun number settings => { settings with load.concurrency := number })
      settings.load.concurrency concurrency rfl
  have httpTimeout (settings : Settings) :=
    overrideNumber_eq settings .ofSeconds
      (fun time settings => { settings with http.timeout := time })
      settings.http.timeout timeout rfl
  have reportDirectory (settings : Settings) :=
    overrideText_eq environment start settings "REPORT_DIR"
      (fun directory settings => { settings with output.directory := directory })
      settings.output.directory rfl
  have logLevel (settings : Settings) :=
    overrideWord_eq settings (fun level settings => { settings with logging.level := level })
      settings.logging.level level rfl
  have logFormat (settings : Settings) :=
    overrideWord_eq settings (fun format settings => { settings with logging.format := format })
      settings.logging.format format rfl
  simp only [override, targetUrl, apiKey, readinessTimeout, controlPlaneUrl, loadConcurrency,
    httpTimeout, reportDirectory, logLevel, logFormat, bind, Except.bind, Option.map_id']
  rfl

theorem isUnderstood_of_override (placed : settings.override environment start = .ok result) :
    isUnderstood environment start = true := by
  obtain ⟨_, readiness, placed⟩ := bind_eq_ok.mp placed
  obtain ⟨_, concurrency, placed⟩ := bind_eq_ok.mp placed
  obtain ⟨_, timeout, placed⟩ := bind_eq_ok.mp placed
  obtain ⟨_, level, format⟩ := bind_eq_ok.mp placed
  simp only [isUnderstood, Bool.and_eq_true]
  exact ⟨⟨⟨⟨parses_of_overrideNumber readiness, parses_of_overrideNumber concurrency⟩,
    parses_of_overrideNumber timeout⟩, parses_of_overrideWord level⟩,
    parses_of_overrideWord format⟩

theorem eq_overridden_of_settle {given : Settings}
    (settled : given.settle environment start = .ok settings) :
    isUnderstood environment start = true ∧ settings = given.overridden environment start := by
  obtain ⟨_, placed, settled⟩ := bind_eq_ok.mp settled
  obtain ⟨_, _, same⟩ := bind_eq_ok.mp settled
  have placed := mapError_eq_ok.mp placed
  have understood := isUnderstood_of_override placed
  rw [override_of_isUnderstood understood] at placed
  cases placed
  cases same
  exact ⟨understood, rfl⟩

/-- No other variable makes a difference. -/
theorem override_congr {other : Environment}
    (same : ∀ name ∈ variableNames,
      other (variableName start name) = environment (variableName start name)) :
    settings.override other start = settings.override environment start := by
  simp only [override, overrideText, overrideNumber, overrideWord, same "TARGET_URL" (by decide),
    same "API_KEY" (by decide), same "READINESS_TIMEOUT" (by decide),
    same "CONTROL_PLANE_URL" (by decide), same "CONCURRENCY" (by decide),
    same "HTTP_TIMEOUT" (by decide), same "REPORT_DIR" (by decide), same "LOG_LEVEL" (by decide),
    same "LOG_FORMAT" (by decide)]

end Environment

/-! ## The document -/

/-- Settings as a document gives them, with defaults for what it leaves out. -/
def ofDocument (document : Part) : Settings :=
  let standard : Settings := {}
  { target :=
      { baseUrl := document.given ["target", "base_url"] Part.text? standard.target.baseUrl
        healthPath :=
          document.given ["target", "health_path"] Part.text? standard.target.healthPath
        endpointPath :=
          document.given ["target", "endpoint_path"] Part.text? standard.target.endpointPath
        keyHeader :=
          document.given ["target", "api_key_header"] Part.text? standard.target.keyHeader
        key := document.given ["target", "api_key"] Part.text? standard.target.key
        readinessTimeout :=
          document.given ["target", "readiness_timeout"] Source.seconds?
            standard.target.readinessTimeout
        pollInterval :=
          document.given ["target", "poll_interval"] Source.seconds? standard.target.pollInterval }
    controlPlane :=
      { apiUrl := document.given ["control_plane", "api_url"] Part.text? standard.controlPlane.apiUrl
        route :=
          { name :=
              document.given ["control_plane", "route", "name"] Part.text?
                standard.controlPlane.route.name
            listen :=
              document.given ["control_plane", "route", "listen"] Part.text?
                standard.controlPlane.route.listen
            upstream :=
              document.given ["control_plane", "route", "upstream"] Part.text?
                standard.controlPlane.route.upstream } }
    load :=
      { concurrency :=
          document.given ["load", "concurrency"] Part.natural? standard.load.concurrency }
    http :=
      { timeout := document.given ["http", "timeout"] Source.seconds? standard.http.timeout
        redirects :=
          document.given ["http", "max_redirects"] HttpSettings.redirects? standard.http.redirects
        userAgent := document.given ["http", "user_agent"] Part.text? standard.http.userAgent
        verifyCertificates :=
          document.given ["http", "verify_ssl"] Part.truth? standard.http.verifyCertificates
        pool :=
          { idlePerHost :=
              document.given ["http", "connection_pool", "max_idle_per_host"] Part.natural?
                standard.http.pool.idlePerHost
            idleTimeout :=
              document.given ["http", "connection_pool", "idle_timeout"] Source.seconds?
                standard.http.pool.idleTimeout
            connectionTimeout :=
              document.given ["http", "connection_pool", "connection_timeout"] Source.seconds?
                standard.http.pool.connectionTimeout } }
    output :=
      { directory := document.given ["report", "output_dir"] Part.text? standard.output.directory
        filePrefix := document.given ["report", "file_prefix"] Part.text? standard.output.filePrefix
        title := document.given ["report", "title"] Part.text? standard.output.title
        writeJson := document.given ["report", "write_json"] Part.truth? standard.output.writeJson }
    logging :=
      { level := document.given ["logging", "level"] Logging.level? standard.logging.level
        format := document.given ["logging", "format"] Logging.format? standard.logging.format
        target :=
          document.given ["logging", "target"] LogTarget.ofSource? standard.logging.target
        includeLocation :=
          document.given ["logging", "include_location"] Part.truth?
            standard.logging.includeLocation }
    scenarios := document.given ["scenarios"] scenarios? standard.scenarios }

theorem ofPart_eq_ofDocument (document : Part) : ofPart document = ofDocument document := by
  simp only [ofPart, ofDocument, Part.nested, Part.given, Part.at?]
  congr 1
  · cases document.member? "target" with
    | none => rfl
    | some part => simp [Target.ofPart, Part.value]
  · cases document.member? "control_plane" with
    | none => rfl
    | some part =>
        simp only [Option.bind_some, Option.map_some, Option.getD_some, ControlPlane.ofPart,
          Part.value, Part.nested]
        cases part.member? "route" with
        | none => simp
        | some part => simp [Route.ofPart, Part.value]
  · cases document.member? "load" with
    | none => rfl
    | some part => simp [Load.ofPart, Part.value]
  · cases document.member? "http" with
    | none => rfl
    | some part =>
        simp only [Option.bind_some, Option.map_some, Option.getD_some, HttpSettings.ofPart,
          Part.value, Part.nested]
        cases part.member? "connection_pool" with
        | none => simp
        | some part => simp [ConnectionPool.ofPart, Part.value]
  · cases document.member? "report" with
    | none => rfl
    | some part => simp [Output.ofPart, Part.value]
  · cases document.member? "logging" with
    | none => rfl
    | some part => simp [Logging.ofPart, Part.value]
  · simp only [Part.value]
    cases document.member? "scenarios" <;> rfl

theorem room_ofRoot (root : Yaml.Node) : 2 < (Part.ofRoot root).room := by
  change 2 < Part.deepest
  decide

/-- What is read of a document is what it gives. -/
theorem ofSource?_document {text : String} {document : Part}
    (parsed : Part.ofText? text = some document) :
    ofSource? document = if isWritten document then some (ofDocument document) else none := by
  obtain ⟨root, _, rfl⟩ := Option.map_eq_some_iff.mp parsed
  rw [ofSource?_eq (room_ofRoot root), ofPart_eq_ofDocument]

/-- A document that gives nothing stands for the defaults. -/
theorem ofSource?_bare {document : Part} (room : 2 < document.room)
    (tidy : document.isStructure names = true)
    (bare : ∀ name, document.member? name = none) : ofSource? document = some {} := by
  have written : isWritten document = true := by
    rw [isWritten, Part.isSection]
    simp only [bare, Option.all_none, List.all_cons, List.all_nil]
    exact Bool.and_eq_true_iff.mpr ⟨tidy, rfl⟩
  rw [ofSource?_eq room, if_pos written]
  simp only [ofPart, Part.nested, Part.value, bare]
  rfl

theorem ofSource?_empty {root : Yaml.Node}
    (empty : Part.isEmpty root = true ∨ ∃ marks, root = .mapping marks []) :
    ofSource? (Part.ofRoot root) = some {} := by
  rcases empty with empty | ⟨marks, rfl⟩
  · cases root with
    | scalar marks text style =>
        refine ofSource?_bare (room_ofRoot _) ?_ fun name => rfl
        exact empty
    | _ => cases empty
  · exact ofSource?_bare (room_ofRoot _) rfl fun name => rfl

/-! ## Precedence -/

/-- The settings of a document behind the overrides of an environment. -/
def merged (environment : Environment) (start : String) (document : Part) : Settings :=
  (ofDocument document).overridden environment start

/-- Settings from a document and an environment. If the document is written as it should be
and the environment is understood, then nothing can go wrong but that what the two say
together does not pass the checks. Whatever is loaded is what such two say together. No
other variable of the environment makes a difference, and a document that says nothing
leaves everything to the environment. -/
theorem ofYaml_eq_merged (environment : Environment) (start text : String) :
    (∀ document, Part.ofText? text = some document → isWritten document = true →
      isUnderstood environment start = true →
      ofYaml environment start text =
        (merged environment start document).check.map fun _ =>
          merged environment start document) ∧
    (∀ settings, ofYaml environment start text = .ok settings →
      ∃ document, Part.ofText? text = some document ∧ isWritten document = true ∧
        isUnderstood environment start = true ∧ settings = merged environment start document) ∧
    (∀ other : Environment,
      (∀ name ∈ variableNames,
        other (variableName start name) = environment (variableName start name)) →
      ofYaml other start text = ofYaml environment start text) ∧
    (∀ root, Yaml.root? text = some root →
      Part.isEmpty root = true ∨ (∃ marks, root = .mapping marks []) →
      ofYaml environment start text = ofEnvironment environment start) := by
  refine ⟨?_, ?_, ?_, ?_⟩
  · intro document parsed written understood
    have source := ofSource?_document parsed
    rw [if_pos written] at source
    rw [ofYaml, parsed, Option.bind_some, source]
    exact settle_of_override (override_of_isUnderstood understood)
  · intro settings loaded
    rw [ofYaml] at loaded
    cases parsed : Part.ofText? text with
    | none =>
        rw [parsed] at loaded
        cases loaded
    | some document =>
        have source := ofSource?_document parsed
        rw [parsed, Option.bind_some, source] at loaded
        cases written : isWritten document with
        | false =>
            rw [written] at loaded
            cases loaded
        | true =>
            rw [written] at loaded
            exact ⟨document, rfl, written, eq_overridden_of_settle loaded⟩
  · intro other same
    unfold ofYaml settle
    simp only [override_congr same]
  · intro root found empty
    have parsed : Part.ofText? text = some (Part.ofRoot root) := by rw [Part.ofText?, found]; rfl
    rw [ofYaml, parsed, Option.bind_some, ofSource?_empty empty]
    rfl

/-- No load can have a concurrency of zero, but another one is set. -/
theorem merged_partial_document :
    let text := "load: {concurrency: 0}\ntarget:\n  colour: red\n  api_key: k\n"
    let environment : Environment := fun name =>
      if name = "DRILL_CONCURRENCY" then some "7" else none
    ∃ settings, ofYaml environment "DRILL" text = .ok settings ∧
      settings.load.concurrency = 7 ∧ settings.target.key = "k" ∧
      settings.http.userAgent = "faultline/0.1.0" := by
  intro text environment
  have facts : ((Part.ofText? text).any fun document =>
      let settings := merged environment "DRILL" document
      isWritten document && isUnderstood environment "DRILL" && settings.check.isOk &&
        decide (settings.load.concurrency = 7 ∧ settings.target.key = "k" ∧
          settings.http.userAgent = "faultline/0.1.0")) = true := by decide +kernel
  cases parsed : Part.ofText? text with
  | none =>
      rw [parsed] at facts
      cases facts
  | some document =>
      simp only [parsed, Option.any_some, Bool.and_eq_true, decide_eq_true_eq] at facts
      obtain ⟨⟨⟨written, understood⟩, checked⟩, values⟩ := facts
      have loaded :=
        (ofYaml_eq_merged environment "DRILL" text).1 document parsed written understood
      rw [eq_ok_of_isOk checked] at loaded
      exact ⟨_, loaded, values⟩

end Settings

end FaultDrill
