import FaultDrill.CommandLine.Arguments
import FaultDrill.CommandLine.SettingsFile
import FaultDrill.Proofs.Settings.Soundness

/-!
Options that were read have values their flags accept. That holds of what has been
found so far, and every argument that is read keeps it. So options do no harm to
settings that have passed their checks, and wherever settings come from, a command
is only given sound ones.
-/

namespace FaultDrill.CommandLine

/-- Every option has a value that its flag accepts. -/
def AreFit (options : List (Flag × String)) : Prop :=
  ∀ option ∈ options, option.1.accepts option.2

theorem AreFit.append {first second : List (Flag × String)} (left : AreFit first)
    (right : AreFit second) : AreFit (first ++ second) := by
  intro option member
  rcases List.mem_append.mp member with member | member
  · exact left option member
  · exact right option member

/-! ## Options of one command -/

namespace Found

variable {found next : Found}

theorem add_fit {flag : Flag} {value : String} (fit : AreFit found.given)
    (added : found.add flag value = .ok next) : AreFit next.given := by
  rw [add] at added
  split at added
  · cases added
  · rename_i allowed
    cases added
    intro option member
    rcases List.mem_cons.mp member with first | member
    · subst first
      simp only [Bool.or_eq_true, Bool.not_eq_true', not_or] at allowed
      simpa using allowed.2
    · exact fit option member

theorem settle_fit (fit : AreFit found.given) (settled : found.settle = .ok next) :
    AreFit next.given := by
  rw [settle] at settled
  split at settled
  · cases settled
    exact fit
  · cases settled
  · apply add_fit _ settled
    exact fit

theorem long_fit {topic : Topic} {name : String} {value : Option String}
    (fit : AreFit found.given) (read : found.long topic name value = .ok next) :
    AreFit next.given := by
  rw [long.eq_def] at read
  split at read
  · cases read
  · obtain ⟨settled, first, read⟩ := bind_eq_ok.mp read
    have fit := settle_fit fit first
    split at read
    · split at read
      · exact add_fit fit read
      · cases read
        exact fit
    · split at read
      · cases read
      · split at read
        · cases read
        · split at read
          · cases read
          · exact add_fit fit read

theorem short_ne_ok (topic : Topic) (letter : Char) : found.short topic letter ≠ .ok next := by
  intro read
  rw [short] at read
  split at read
  · cases read
  · obtain ⟨_, _, read⟩ := bind_eq_ok.mp read
    split at read <;> cases read

theorem option_fit {topic : Topic} {argument : List Char} (fit : AreFit found.given)
    (read : found.option topic argument = .ok next) : AreFit next.given := by
  rw [option.eq_def] at read
  split at read
  · exact long_fit fit read
  · exact absurd read (short_ne_ok topic _)
  · cases read

end Found

/-! ## Commands -/

theorem readFrom_fit {topic task : Topic} {found : Found} {arguments : List String}
    {options : List (Flag × String)} (fit : AreFit found.given)
    (read : readFrom topic found arguments = .ok (task, options)) : AreFit options := by
  induction arguments generalizing topic found task options with
  | nil =>
      rw [readFrom] at read
      obtain ⟨settled, first, read⟩ := bind_eq_ok.mp read
      split at read
      · cases read
        exact Found.settle_fit fit first
      · cases read
  | cons argument rest induction =>
      rw [readFrom] at read
      dsimp only at read
      -- Two dashes, an option, the value of the option before, or the name of a command.
      split at read
      · obtain ⟨settled, first, read⟩ := bind_eq_ok.mp read
        split at read
        · cases read
          exact Found.settle_fit fit first
        · cases read
      split at read
      · obtain ⟨next, first, read⟩ := bind_eq_ok.mp read
        exact induction (Found.option_fit fit first) read
      split at read
      · apply induction _ read
        exact fit
      split at read
      · cases read
      · split at read <;> cases read
      · obtain ⟨⟨inner, innerOptions⟩, first, read⟩ := bind_eq_ok.mp read
        obtain ⟨settled, second, read⟩ := bind_eq_ok.mp read
        cases read
        have nothing : AreFit ({} : Found).given := by simp [AreFit]
        exact (induction nothing first).append (Found.settle_fit fit second)

namespace Invocation

theorem outputDirectory_ne_empty {arguments : List String} {invocation : Invocation}
    (understood : read arguments = .ok invocation) : invocation.outputDirectory ≠ some "" := by
  intro empty
  obtain ⟨⟨topic, options⟩, found, same⟩ := bind_eq_ok.mp understood
  cases same
  have fit := readFrom_fit (by simp [AreFit]) found
  obtain ⟨before, after, parts, _⟩ := List.lookup_eq_some_iff.mp empty
  have accepted := fit (.outputDirectory, "") (by simp [parts])
  cases accepted

variable {settings : Settings}

/-- Options that were read do no harm to settings. -/
theorem adjust_isSound {arguments : List String} {invocation : Invocation}
    (understood : read arguments = .ok invocation) (sound : settings.IsSound) :
    (invocation.adjust settings).IsSound := by
  have directory : (invocation.outputDirectory.getD settings.output.directory) ≠ "" := by
    cases given : invocation.outputDirectory with
    | none => exact sound.output.directory
    | some path =>
        intro empty
        exact outputDirectory_ne_empty understood (given.trans (congrArg some empty))
  exact { sound with output := { sound.output with directory := directory } }

end Invocation

/-! ## Settings of a command -/

theorem isSound_of_loadSettings {environment : Environment} {disk : Disk} {path : Option String}
    {settings : Settings} (loaded : loadSettings environment disk path = .ok settings) :
    settings.IsSound := by
  apply Settings.isSound_of_check
  cases path with
  | none => exact Settings.check_of_read (mapError_eq_ok.mp loaded)
  | some path =>
      rw [loadSettings] at loaded
      split at loaded
      · exact Settings.check_of_read (mapError_eq_ok.mp loaded)
      · exact Settings.check_of_read (mapError_eq_ok.mp loaded)

/-- Settings from a text, from the environment alone or from a file are sound under any
prefix, and so are those that a command works with, under whatever options. -/
theorem only_sound_settings :
    (∀ environment start text settings,
      Settings.ofYaml environment start text = .ok settings → settings.IsSound) ∧
    (∀ environment start settings,
      Settings.ofEnvironment environment start = .ok settings → settings.IsSound) ∧
    (∀ environment start source settings,
      Settings.read environment start source = .ok settings → settings.IsSound) ∧
    ∀ arguments invocation environment disk settings,
      Invocation.read arguments = .ok invocation →
      loadSettings environment disk invocation.config = .ok settings →
      (invocation.adjust settings).IsSound := by
  refine ⟨?_, ?_, ?_, ?_⟩
  · intro environment start text settings loaded
    exact Settings.isSound_of_check (Settings.check_of_ofYaml loaded)
  · intro environment start settings loaded
    exact Settings.isSound_of_check (Settings.check_of_settle loaded)
  · intro environment start source settings loaded
    exact Settings.isSound_of_check (Settings.check_of_read loaded)
  · intro arguments invocation environment disk settings understood loaded
    exact Invocation.adjust_isSound understood (isSound_of_loadSettings loaded)

/-- The file asks for no concurrency at all, but the environment for some, and an option
for another folder. -/
theorem only_sound_settings_overridden :
    let text := "load: \x7bconcurrency: 0\x7d\n"
    let environment : Environment := fun name =>
      if name = "FAULTLINE_CONCURRENCY" then some "7" else none
    let disk : Disk := ⟨[(["d.yaml"], .file text)], []⟩
    (∃ settings, Settings.ofYaml environment Settings.standardStart text = .ok settings ∧
      settings.IsSound) ∧
    (∃ settings, Settings.ofEnvironment environment Settings.standardStart = .ok settings ∧
      settings.IsSound) ∧
    (∃ settings, Settings.read environment Settings.standardStart (settingsAt disk "d.yaml") =
      .ok settings ∧ settings.IsSound) ∧
    ∃ invocation settings,
      Invocation.read ["scenarios", "--config=d.yaml", "--output-dir", "out"] = .ok invocation ∧
      loadSettings environment disk invocation.config = .ok settings ∧
      (invocation.adjust settings).IsSound := by
  intro text environment disk
  obtain ⟨ofText, ofEnvironment, ofSource, ofInvocation⟩ := only_sound_settings
  refine ⟨?_, ?_, ?_, ?_⟩
  · obtain ⟨settings, loaded⟩ : ∃ settings,
        Settings.ofYaml environment Settings.standardStart text = .ok settings :=
      exists_eq_ok_of_isOk (by decide +kernel)
    exact ⟨settings, loaded, ofText _ _ _ _ loaded⟩
  · obtain ⟨settings, loaded⟩ : ∃ settings,
        Settings.ofEnvironment environment Settings.standardStart = .ok settings :=
      exists_eq_ok_of_isOk (by decide +kernel)
    exact ⟨settings, loaded, ofEnvironment _ _ _ loaded⟩
  · obtain ⟨settings, loaded⟩ : ∃ settings,
        Settings.read environment Settings.standardStart (settingsAt disk "d.yaml") =
          .ok settings :=
      exists_eq_ok_of_isOk (by decide +kernel)
    exact ⟨settings, loaded, ofSource _ _ _ _ loaded⟩
  · have understood : Invocation.read ["scenarios", "--config=d.yaml", "--output-dir", "out"] =
        .ok ⟨.scenarios, some "d.yaml", none, some "out", false⟩ := by decide +kernel
    obtain ⟨settings, loaded⟩ : ∃ settings,
        loadSettings environment disk (some "d.yaml") = .ok settings :=
      exists_eq_ok_of_isOk (by decide +kernel)
    exact ⟨_, settings, understood, loaded, ofInvocation _ _ _ disk _ understood loaded⟩

end FaultDrill.CommandLine
