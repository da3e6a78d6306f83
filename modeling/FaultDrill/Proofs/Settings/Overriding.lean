import FaultDrill.Proofs.Settings.Precedence
import FaultDrill.Proofs.Text.Unsigned

/-!
What becomes of variables that are set. Loading fails, or the settings hold what each
variable says, as long as its bytes are text. Bytes that are not text are passed over
without a word.
-/

namespace FaultDrill

/-- The variables that are heeded, without the word their names start with. -/
inductive Variable where
  | targetUrl
  | apiKey
  | readinessTimeout
  | controlPlaneUrl
  | concurrency
  | httpTimeout
  | reportDirectory
  | logLevel
  | logFormat

namespace Variable

def name : Variable → String
  | targetUrl => "TARGET_URL"
  | apiKey => "API_KEY"
  | readinessTimeout => "READINESS_TIMEOUT"
  | controlPlaneUrl => "CONTROL_PLANE_URL"
  | concurrency => "CONCURRENCY"
  | httpTimeout => "HTTP_TIMEOUT"
  | reportDirectory => "REPORT_DIR"
  | logLevel => "LOG_LEVEL"
  | logFormat => "LOG_FORMAT"

example : [targetUrl, apiKey, readinessTimeout, controlPlaneUrl, concurrency, httpTimeout,
    reportDirectory, logLevel, logFormat].map name = Settings.variableNames := rfl

/-- The name in the environment: what all names there start with, and its own. -/
def fullName (start : String) (which : Variable) : String :=
  Settings.variableName start which.name

/-- A time of as many seconds as a text says. -/
def IsTime (text : String) (time : Duration) : Prop :=
  ∃ seconds : UInt64, Text.StandsFor text.toList seconds.toNat ∧ time = .ofSeconds seconds

/-- Settings say what a variable of some value says. -/
def IsHeld (settings : Settings) (text : String) : Variable → Prop
  | targetUrl => settings.target.baseUrl = text
  | apiKey => settings.target.key = text
  | readinessTimeout => IsTime text settings.target.readinessTimeout
  | controlPlaneUrl => settings.controlPlane.apiUrl = text
  | concurrency => Text.StandsFor text.toList settings.load.concurrency.toNat
  | httpTimeout => IsTime text settings.http.timeout
  | reportDirectory => settings.output.directory = text
  | logLevel => LogLevel.ofWord? text = some settings.logging.level
  | logFormat => LogFormat.ofWord? text = some settings.logging.format

end Variable

namespace Settings

variable {environment : Environment} {start name text : String} {given settings : Settings}

/-! ## Variables that are text -/

theorem chosen_of_set {α : Type} {parse : String → Option α} {value otherwise : α}
    (set : environment (variableName start name) = some text) (read : parse text = some value) :
    chosen environment start name parse otherwise = value := by
  rw [chosen, set, Option.bind_some, read, Option.getD_some]

theorem exists_of_parses {α : Type} {parse : String → Option α}
    (understood : parses environment start name parse = true)
    (set : environment (variableName start name) = some text) :
    ∃ value, parse text = some value := by
  rw [parses, set, Option.all_some] at understood
  exact Option.isSome_iff_exists.mp understood

theorem number?_eq_some {number : UInt64} :
    number? text = some number ↔ Text.StandsFor text.toList number.toNat := by
  rw [number?, toOption_eq_some, Text.unsigned64_eq_ok]

theorem isTime_chosen {otherwise : Duration}
    (understood : parses environment start name number? = true)
    (set : environment (variableName start name) = some text) :
    Variable.IsTime text (chosen environment start name seconds? otherwise) := by
  obtain ⟨seconds, read⟩ := exists_of_parses understood set
  have time : seconds? text = some (.ofSeconds seconds) := by rw [seconds?, read, Option.map_some]
  exact ⟨seconds, number?_eq_some.mp read, chosen_of_set set time⟩

/-- Each variable has its own place, and its own way of being read. -/
theorem isHeld_overridden (understood : isUnderstood environment start = true)
    (which : Variable) (set : environment (which.fullName start) = some text) :
    which.IsHeld (given.overridden environment start) text := by
  simp only [isUnderstood, Bool.and_eq_true] at understood
  obtain ⟨⟨⟨⟨readiness, concurrency⟩, timeout⟩, level⟩, format⟩ := understood
  cases which with
  | targetUrl => exact chosen_of_set set rfl
  | apiKey => exact chosen_of_set set rfl
  | readinessTimeout => exact isTime_chosen readiness set
  | controlPlaneUrl => exact chosen_of_set set rfl
  | concurrency =>
      obtain ⟨number, read⟩ := exists_of_parses concurrency set
      have held : (given.overridden environment start).load.concurrency = number :=
        chosen_of_set set read
      rw [Variable.IsHeld, held]
      exact number?_eq_some.mp read
  | httpTimeout => exact isTime_chosen timeout set
  | reportDirectory => exact chosen_of_set set rfl
  | logLevel =>
      obtain ⟨value, read⟩ := exists_of_parses level set
      exact read.trans (congrArg some (chosen_of_set set read).symm)
  | logFormat =>
      obtain ⟨value, read⟩ := exists_of_parses format set
      exact read.trans (congrArg some (chosen_of_set set read).symm)

/-! ## Variables that are bytes -/

/-- Bytes of a text. -/
def IsText (bytes : ByteArray) : Prop := ∃ text : String, text.toUTF8 = bytes

theorem fromUTF8?_eq_some {bytes : ByteArray} :
    String.fromUTF8? bytes = some text ↔ text.toUTF8 = bytes := by
  constructor
  · intro read
    rw [String.fromUTF8?] at read
    split at read
    · cases read
      rfl
    · cases read
  · rintro rfl
    exact dif_pos text.isValidUTF8

variable {raw : RawEnvironment} {bytes : ByteArray}

theorem not_isText_iff : ¬ IsText bytes ↔ String.fromUTF8? bytes = none := by
  rw [Option.eq_none_iff_forall_ne_some, IsText, not_exists]
  simp only [ne_eq, fromUTF8?_eq_some]

theorem ofRaw_eq_some (set : raw name = some bytes) :
    Environment.ofRaw raw name = some text ↔ text.toUTF8 = bytes := by
  rw [Environment.ofRaw, set, Option.bind_some, fromUTF8?_eq_some]

/-- Settings say what the bytes of a variable say. -/
def Heeds (settings : Settings) (which : Variable) (bytes : ByteArray) : Prop :=
  ∃ text : String, text.toUTF8 = bytes ∧ which.IsHeld settings text

theorem heeds_iff_isText (settled : given.settle (.ofRaw raw) start = .ok settings)
    {which : Variable} (set : raw (which.fullName start) = some bytes) :
    settings.Heeds which bytes ↔ IsText bytes := by
  constructor
  · rintro ⟨text, same, _⟩
    exact ⟨text, same⟩
  · rintro ⟨text, same⟩
    obtain ⟨understood, rfl⟩ := eq_overridden_of_settle settled
    exact ⟨text, same, isHeld_overridden understood which ((ofRaw_eq_some set).mpr same)⟩

/-- The variables without one of them. -/
def without (raw : RawEnvironment) (name : String) : RawEnvironment :=
  fun other => if other = name then none else raw other

theorem ofRaw_without (set : raw name = some bytes) (noText : ¬ IsText bytes) :
    Environment.ofRaw (without raw name) = Environment.ofRaw raw := by
  funext other
  rw [Environment.ofRaw, Environment.ofRaw, without]
  split
  · rename_i same
    rw [same, set, Option.bind_some, not_isText_iff.mp noText]
    rfl
  · rfl

/-- Wherever settings are read from, the environment has the last word. -/
theorem exists_settle_of_read {source : SettingsSource}
    (loaded : read environment start source = .ok settings) :
    ∃ given : Settings, given.settle environment start = .ok settings := by
  rcases source with _ | ⟨error | content⟩
  · exact ⟨{}, loaded⟩
  · cases loaded
  · simp only [read, ofBytes, ofYaml] at loaded
    split at loaded
    · split at loaded
      · exact ⟨_, loaded⟩
      · cases loaded
    · cases loaded

/-- A variable that is set is heeded by all settings that can be loaded exactly if its bytes
are text. One whose bytes are not makes no difference: loading goes as if it were not set,
be it to settings or to an error. -/
theorem heeded_iff_text (raw : RawEnvironment) (start : String) (which : Variable)
    (bytes : ByteArray) (set : raw (which.fullName start) = some bytes) :
    (∀ given settings : Settings, given.settle (.ofRaw raw) start = .ok settings →
      (settings.Heeds which bytes ↔ IsText bytes)) ∧
    (∀ source settings, read (.ofRaw raw) start source = .ok settings →
      (settings.Heeds which bytes ↔ IsText bytes)) ∧
    (¬ IsText bytes → ∀ (given : Settings) source,
      given.settle (.ofRaw raw) start =
        given.settle (.ofRaw (without raw (which.fullName start))) start ∧
      read (.ofRaw raw) start source =
        read (.ofRaw (without raw (which.fullName start))) start source) := by
  refine ⟨fun given settings settled => heeds_iff_isText settled set, ?_, ?_⟩
  · intro source settings loaded
    obtain ⟨given, settled⟩ := exists_settle_of_read loaded
    exact heeds_iff_isText settled set
  · intro noText given source
    rw [ofRaw_without set noText]
    exact ⟨rfl, rfl⟩

/-- A concurrency that is text is heeded. A key that is not is passed over. -/
theorem heeded_iff_text_mixed :
    let raw : RawEnvironment := fun name =>
      if name = "DRILL_CONCURRENCY" then some "7".toUTF8
      else if name = "DRILL_API_KEY" then some ⟨#[0x6B, 0xFF]⟩
      else none
    ∃ settings, ofEnvironment (.ofRaw raw) "DRILL" = .ok settings ∧
      settings.Heeds .concurrency "7".toUTF8 ∧ ¬ settings.Heeds .apiKey ⟨#[0x6B, 0xFF]⟩ := by
  intro raw
  obtain ⟨settings, loaded⟩ : ∃ settings, ofEnvironment (.ofRaw raw) "DRILL" = .ok settings :=
    exists_eq_ok_of_isOk (by decide +kernel)
  have concurrency := (heeded_iff_text raw "DRILL" .concurrency _ rfl).1 {} settings loaded
  have key := (heeded_iff_text raw "DRILL" .apiKey _ rfl).1 {} settings loaded
  refine ⟨settings, loaded, concurrency.mpr ⟨"7", rfl⟩, fun heeded => ?_⟩
  exact not_isText_iff.mpr (by decide +kernel) (key.mp heeded)

/-- A drill runs with the usual concurrency though another one was asked for. -/
theorem garbled_concurrency_dropped :
    let bytes : ByteArray := ⟨#[0x32, 0xFF]⟩
    let raw : RawEnvironment := fun name =>
      if name = "FAULTLINE_CONCURRENCY" then some bytes else none
    ∃ settings, ofEnvironment (.ofRaw raw) standardStart = .ok settings ∧
      settings.load.concurrency = 10 ∧ ¬ settings.Heeds .concurrency bytes := by
  intro bytes raw
  obtain ⟨settings, loaded⟩ : ∃ settings, ofEnvironment (.ofRaw raw) standardStart = .ok settings :=
    exists_eq_ok_of_isOk (by decide +kernel)
  obtain ⟨_, rfl⟩ := eq_overridden_of_settle loaded
  have noText : ¬ IsText bytes := not_isText_iff.mpr (by decide +kernel)
  refine ⟨_, loaded, by decide +kernel, ?_⟩
  rintro ⟨text, same, _⟩
  exact noText ⟨text, same⟩

end Settings

end FaultDrill
