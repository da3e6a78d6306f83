import FaultDrill.Proofs.Steps
import FaultDrill.Scenario.Sequence
import Mathlib.Data.List.Induction
import Mathlib.Data.List.Nodup
import Mathlib.Data.Nat.Find

/-!
What is reported of a sequence that cannot be run. The scenarios are looked at one
after another, and the first to which there is an objection is reported. Neither the
scenarios in front of it nor those behind it can change that.
-/

namespace FaultDrill.Scenario

/-- What is wrong with a scenario behind others. A flaw of its own comes before a name
that one of the others has already. -/
inductive Objection (earlier : List Scenario) (scenario : Scenario) : ScenarioError → Prop where
  | flaw {error : ScenarioError} (flawed : scenario.check = .error error) :
      Objection earlier scenario error
  | repetition (sound : scenario.check = .ok ()) (taken : scenario.name ∈ earlier.map name) :
      Objection earlier scenario (.duplicateName scenario.name)

variable {front : List Scenario} {scenario : Scenario} {error : ScenarioError}

theorem no_objection_iff :
    (∀ error, ¬ Objection front scenario error) ↔
      scenario.check = .ok () ∧ scenario.name ∉ front.map name := by
  constructor
  · intro none
    cases checked : scenario.check with
    | error error => exact absurd (.flaw checked) (none error)
    | ok _ => exact ⟨rfl, fun taken => none _ (.repetition checked taken)⟩
  · rintro ⟨sound, free⟩ error objection
    cases objection with
    | flaw flawed => cases sound.symm.trans flawed
    | repetition _ taken => exact free taken

/-! ## One scenario after another -/

/-- The names seen are those of the scenarios that were checked. -/
theorem checkAfter_append (seen : List String) (front back : List Scenario) :
    checkAfter seen (front ++ back) =
      (checkAfter seen front >>= fun _ => checkAfter ((front.map name).reverse ++ seen) back) := by
  induction front generalizing seen with
  | nil => rfl
  | cons scenario front induction =>
      have names : ((scenario :: front).map name).reverse ++ seen =
          (front.map name).reverse ++ scenario.name :: seen := by simp
      rw [names, List.cons_append, checkAfter, checkAfter, induction]
      cases scenario.check with
      | error error => rfl
      | ok _ =>
          by_cases known : scenario.name ∈ seen
          · simp only [known, if_true]
            rfl
          · simp only [known, if_false]
            rfl

theorem checkSequence_append (front back : List Scenario) :
    checkSequence (front ++ back) =
      (checkSequence front >>= fun _ => checkAfter (front.map name).reverse back) := by
  rw [checkSequence, checkAfter_append, List.append_nil]
  rfl

/-- Checking comes to an end at the first objection, whatever follows. -/
theorem checkAfter_of_objection (objection : Objection front scenario error)
    (back : List Scenario) :
    checkAfter (front.map name).reverse (scenario :: back) = .error error := by
  cases objection with
  | flaw flawed =>
      rw [checkAfter, flawed]
      rfl
  | repetition sound taken =>
      rw [checkAfter, sound]
      simp only [List.mem_reverse, taken, if_true]
      rfl

theorem checkAfter_of_no_objection (none : ∀ error, ¬ Objection front scenario error) :
    checkAfter (front.map name).reverse [scenario] = .ok () := by
  obtain ⟨sound, free⟩ := no_objection_iff.mp none
  rw [checkAfter, sound]
  simp only [List.mem_reverse, free, if_false]
  rfl

theorem checkSequence_of_objection (sound : checkSequence front = .ok ())
    (objection : Objection front scenario error) (back : List Scenario) :
    checkSequence (front ++ scenario :: back) = .error error := by
  rw [checkSequence_append, sound]
  exact checkAfter_of_objection objection back

theorem checkSequence_concat_eq_ok :
    checkSequence (front ++ [scenario]) = .ok () ↔
      checkSequence front = .ok () ∧ ∀ error, ¬ Objection front scenario error := by
  rw [checkSequence_append]
  constructor
  · intro passed
    obtain ⟨_, sound, last⟩ := bind_eq_ok.mp passed
    refine ⟨sound, fun error objection => ?_⟩
    cases last.symm.trans (checkAfter_of_objection objection [])
  · rintro ⟨sound, none⟩
    rw [sound]
    exact checkAfter_of_no_objection none

/-! ## Sequences as a whole -/

variable {scenarios : List Scenario} {index : Nat}

theorem checkSequence_eq_ok :
    checkSequence scenarios = .ok () ↔
      (∀ scenario ∈ scenarios, scenario.check = .ok ()) ∧ (scenarios.map name).Nodup := by
  -- The last scenario is the one that is checked against the names of all others.
  induction scenarios using List.reverseRecOn with
  | nil => exact iff_of_true rfl ⟨by simp, List.nodup_nil⟩
  | append_singleton front scenario induction =>
      have distinct : ((front ++ [scenario]).map name).Nodup ↔
          scenario.name ∉ front.map name ∧ (front.map name).Nodup := by
        rw [List.map_append, List.map_singleton, ← List.concat_eq_append]
        exact List.nodup_concat _ _
      rw [checkSequence_concat_eq_ok, induction, no_objection_iff, distinct,
        List.forall_mem_append, List.forall_mem_singleton]
      tauto

/-- What is wrong with the scenario at an index, behind those in front of it. -/
def ObjectionAt (scenarios : List Scenario) (index : Nat) (error : ScenarioError) : Prop :=
  ∃ scenario, scenarios[index]? = some scenario ∧ Objection (scenarios.take index) scenario error

/-- There is an objection to the scenario at an index, and to none in front of it. -/
structure FailsFirstAt (scenarios : List Scenario) (index : Nat) (error : ScenarioError) :
    Prop where
  objection : ObjectionAt scenarios index error
  sound : ∀ earlier < index, ∀ error, ¬ ObjectionAt scenarios earlier error

theorem checkSequence_take_eq_ok :
    checkSequence (scenarios.take index) = .ok () ↔
      ∀ earlier < index, ∀ error, ¬ ObjectionAt scenarios earlier error := by
  induction index with
  | zero => exact iff_of_true rfl nofun
  | succ index induction =>
      rw [Nat.forall_lt_succ_right, ← induction, List.take_add_one]
      cases found : scenarios[index]? with
      | none =>
          have absent (error : ScenarioError) : ¬ ObjectionAt scenarios index error := by
            rintro ⟨scenario, present, _⟩
            cases found.symm.trans present
          rw [Option.toList_none, List.append_nil]
          exact (and_iff_left absent).symm
      | some scenario =>
          have same (error : ScenarioError) : ObjectionAt scenarios index error ↔
              Objection (scenarios.take index) scenario error := by
            simp only [ObjectionAt, found, Option.some.injEq, exists_eq_left']
          rw [Option.toList_some, checkSequence_concat_eq_ok]
          simp only [same]

theorem FailsFirstAt.take_eq_ok (first : FailsFirstAt scenarios index error) :
    checkSequence (scenarios.take index) = .ok () :=
  checkSequence_take_eq_ok.mpr first.sound

/-- What comes behind the first scenario that fails makes no difference. -/
theorem FailsFirstAt.append_eq_error (first : FailsFirstAt scenarios index error)
    (others : List Scenario) :
    checkSequence (scenarios.take (index + 1) ++ others) = .error error := by
  obtain ⟨scenario, found, objection⟩ := first.objection
  rw [List.take_add_one, found, Option.toList_some, List.append_assoc, List.singleton_append]
  exact checkSequence_of_objection first.take_eq_ok objection others

theorem exists_failsFirstAt (failed : checkSequence scenarios = .error error) :
    ∃ index, FailsFirstAt scenarios index error := by
  have failing : ∃ index, ∃ error, ObjectionAt scenarios index error := by
    by_contra none
    push Not at none
    have passed := checkSequence_take_eq_ok.mpr fun earlier (_ : earlier < scenarios.length) =>
      none earlier
    rw [List.take_length, failed] at passed
    cases passed
  classical
  obtain ⟨found, objection⟩ := Nat.find_spec failing
  have first : FailsFirstAt scenarios (Nat.find failing) found :=
    { objection
      sound := fun earlier before other fails => Nat.find_min failing before ⟨other, fails⟩ }
  have whole := first.append_eq_error (scenarios.drop (Nat.find failing + 1))
  rw [List.take_append_drop, failed] at whole
  cases whole
  exact ⟨_, first⟩

theorem checkSequence_eq_error :
    checkSequence scenarios = .error error ↔ ∃ index, FailsFirstAt scenarios index error := by
  refine ⟨exists_failsFirstAt, ?_⟩
  rintro ⟨index, first⟩
  have whole := first.append_eq_error (scenarios.drop (index + 1))
  rwa [List.take_append_drop] at whole

/-- A sequence can be run if every scenario can be run by itself and all names differ.
Otherwise the error is that of the first scenario to which there is an objection: all
shorter sequences can be run, and whatever stands behind it makes no difference. -/
theorem first_objection_reported (scenarios : List Scenario) :
    (checkSequence scenarios = .ok () ↔
      (∀ scenario ∈ scenarios, scenario.check = .ok ()) ∧ (scenarios.map name).Nodup) ∧
    (∀ error, checkSequence scenarios = .error error ↔
      ∃ index, FailsFirstAt scenarios index error) ∧
    (∀ index error, FailsFirstAt scenarios index error →
      (∀ length ≤ index, checkSequence (scenarios.take length) = .ok ()) ∧
        ∀ others, checkSequence (scenarios.take (index + 1) ++ others) = .error error) := by
  refine ⟨checkSequence_eq_ok, fun error => checkSequence_eq_error, ?_⟩
  intro index error first
  refine ⟨fun length within => ?_, first.append_eq_error⟩
  exact checkSequence_take_eq_ok.mpr fun earlier before =>
    first.sound earlier (Nat.lt_of_lt_of_le before within)

/-- A scenario that lasts no time is reported for that, though its name is taken, too. The
one without a name behind it is never looked at. -/
theorem first_objection_reported_flaw :
    let sound : Scenario := ⟨"Baseline", 10, 20, none⟩
    let instant : Scenario := ⟨"Baseline", 0, 20, none⟩
    let nameless : Scenario := ⟨"", 10, 20, none⟩
    FailsFirstAt [sound, instant, nameless] 1 (.zeroDuration "Baseline") ∧
      checkSequence [sound] = .ok () ∧
      checkSequence [sound, instant] = .error (.zeroDuration "Baseline") := by
  intro sound instant nameless
  have flawed : instant.check = .error (.zeroDuration "Baseline") := by
    rw [check, if_neg (by decide), if_pos rfl]
    rfl
  have first : FailsFirstAt [sound, instant, nameless] 1 (.zeroDuration "Baseline") :=
    { objection := ⟨instant, rfl, .flaw flawed⟩
      sound := by
        apply checkSequence_take_eq_ok.mp
        exact eq_ok_of_isOk (by decide +kernel) }
  obtain ⟨shorter, onwards⟩ :=
    (first_objection_reported [sound, instant, nameless]).2.2 1 _ first
  exact ⟨first, shorter 1 le_rfl, onwards []⟩

end FaultDrill.Scenario
