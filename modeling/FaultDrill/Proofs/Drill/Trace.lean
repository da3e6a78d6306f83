import FaultDrill.Proofs.Drill.Episode

/-!
The traces a drill may leave. They are said here without the drill: by what may be
called, in which order, and by what was answered. Every run of every drill with
every crew leaves one of them.
-/

namespace FaultDrill.Drill

variable {World : Type} (crew : Crew World)

/-- What is called for a fault before and after the load window. A toxic is
removed by the name it was given when it was injected, and a removal without a
name goes with every injection that failed. A route is switched on again only if
it could be switched off. -/
inductive Bracket (route : String) :
    Option Fault → (opening closing : List (Deed World)) → Prop
  | undisturbed : Bracket route none [] []
  | injected {fault toxic armed undone} :
      fault ≠ .disable →
      ((crew.perform (.inject route fault)).run armed).1 = .ok (some toxic) →
      Bracket route (some fault)
        [⟨.command (.inject route fault), armed⟩]
        [⟨.command (.remove route (some toxic)), undone⟩]
  | notInjected {fault error armed undone} :
      fault ≠ .disable →
      ((crew.perform (.inject route fault)).run armed).1 = .error error →
      Bracket route (some fault)
        [⟨.command (.inject route fault), armed⟩]
        [⟨.command (.remove route none), undone⟩]
  | switchedOff {answer armed undone} :
      ((crew.perform (.enable route false)).run armed).1 = .ok answer →
      Bracket route (some .disable)
        [⟨.command (.enable route false), armed⟩]
        [⟨.command (.enable route true), undone⟩]
  | notSwitchedOff {error armed} :
      ((crew.perform (.enable route false)).run armed).1 = .error error →
      Bracket route (some .disable) [⟨.command (.enable route false), armed⟩] []

/-- The turns of scenarios, one after another. Each has one load window, of the
scenario's own length and rate, and its row tells what that window saw, or nothing
if it broke down. -/
inductive Turns (route : String) :
    List Scenario → List (Deed World) → List ScenarioResult → Prop
  | none : Turns route [] [] []
  | turn {scenario opening closing opened startedAt finishedAt scenarios deeds results} :
      Bracket crew route scenario.fault opening closing →
      Turns route scenarios deeds results →
      Turns route (scenario :: scenarios)
        (opening ++ ⟨.measure scenario.duration scenario.rate, opened⟩ :: closing ++ deeds)
        (.ofStats scenario
          (((crew.measure scenario.duration scenario.rate).run opened).1.getD (.ofOutcomes 0 []))
          startedAt finishedAt :: results)

/-- A drill whose target is not ready, or that is cancelled first, calls nobody.
Any other prepares its route and runs its scenarios in order; it leaves some out
only if it is cancelled. -/
inductive Trace (drill : Drill) :
    Readiness → Progress World → Except Failure Conclusion → Prop
  | timedOut {world} :
      Trace drill .timedOut { world } (.error (.notReady drill.patience.seconds))
  | cancelled {world} :
      Trace drill .cancelled { world } (.ok { results := [], interrupted := true })
  | ready {progress executed skipped deeds results ready reset} :
      drill.scenarios = executed ++ skipped →
      (skipped ≠ [] → crew.isCancelled progress.world) →
      Turns crew drill.route.name executed deeds results →
      progress.deeds =
        ⟨.command .reset, ready⟩ :: ⟨.command (.configure drill.route), reset⟩ :: deeds →
      Trace drill .ready progress
        (.ok { results, interrupted := crew.isCancelled progress.world })

/-! ## Turns -/

variable (route : String)

/-- Arming and releasing make a bracket, whatever happens to the world between. -/
theorem arm_release_bracket (fault : Option Fault) (world ended : World) :
    let armed := (arm crew route fault).run { world }
    Bracket crew route fault armed.2.deeds
      ((release crew route armed.1).run { world := ended }).2.deeds := by
  intro armed
  cases fault with
  | none => exact .undisturbed
  | some fault =>
      by_cases isToxic : fault = .disable
      · subst isToxic
        simp only [armed, arm_disable]
        cases answer : ((crew.perform (.enable route false)).run world).1 with
        | ok _ => exact .switchedOff answer
        | error _ => exact .notSwitchedOff answer
      · simp only [armed, arm_toxic crew route isToxic]
        cases answer : ((crew.perform (.inject route fault)).run world).1 with
        | error _ => exact .notInjected isToxic answer
        | ok name =>
            cases name with
            | none => exact absurd answer (crew.tells_toxic route fault world)
            | some toxic => exact .injected isToxic answer

theorem turns_episodesOf (scenarios : List Scenario) (world : World) :
    ∃ executed skipped,
      scenarios = executed ++ skipped ∧
      (skipped ≠ [] → crew.isCancelled
        (worldAfter world (episodesOf crew route scenarios world))) ∧
      Turns crew route executed ((episodesOf crew route scenarios world).flatMap Episode.deeds)
        ((episodesOf crew route scenarios world).map Episode.result) := by
  induction scenarios generalizing world with
  | nil => exact ⟨[], [], rfl, by simp, .none⟩
  | cons scenario rest induction =>
      cases cancelled : crew.isCancelled world with
      | true => exact ⟨[], scenario :: rest, rfl, by simp [episodesOf, cancelled, worldAfter],
          by simpa [episodesOf, cancelled] using .none⟩
      | false =>
          rcases induction (episode crew route scenario world).finish with
            ⟨executed, skipped, parts, stops, turns⟩
          refine ⟨scenario :: executed, skipped, by simp [parts], ?_, ?_⟩
          · simpa [episodesOf, cancelled, worldAfter] using stops
          · have bracket := arm_release_bracket crew route scenario.fault world
            simp only [episodesOf, cancelled, Bool.false_eq_true, if_false, List.flatMap_cons,
              List.map_cons]
            exact .turn (bracket _) turns

theorem Turns.scenarios {crew : Crew World} {route : String} {executed : List Scenario}
    {deeds : List (Deed World)} {results : List ScenarioResult}
    (turns : Turns crew route executed deeds results) :
    results.map ScenarioResult.scenario = executed := by
  induction turns with
  | none => rfl
  | turn _ _ induction => exact congrArg _ induction

/-! ## Runs -/

/-- There is one result for each of the first scenarios, and for all of them unless the
drill was interrupted. -/
theorem scenarios_of_run (crew : Crew World) (drill : Drill) (world : World)
    {conclusion : Conclusion} (concluded : (drill.run crew world).1 = .ok conclusion) :
    conclusion.results.map ScenarioResult.scenario <+: drill.scenarios ∧
      (conclusion.interrupted = false →
        conclusion.results.map ScenarioResult.scenario = drill.scenarios) := by
  cases readiness : (crew.wait.run world).1 with
  | timedOut =>
      rw [run_of_timedOut crew drill readiness] at concluded
      cases concluded
  | cancelled =>
      rw [run_of_cancelled crew drill readiness] at concluded
      cases concluded
      exact ⟨List.nil_prefix, nofun⟩
  | ready =>
      obtain ⟨executed, skipped, parts, stops, turns⟩ :=
        turns_episodesOf crew drill.route.name drill.scenarios (drill.prepared crew world)
      rw [run_of_ready crew drill readiness] at concluded
      cases concluded
      have ran := turns.scenarios
      refine ⟨⟨skipped, ?_⟩, ?_⟩
      · rw [parts]
        exact congrArg (· ++ skipped) ran
      · intro uncancelled
        cases skipped with
        | nil => exact ran.trans (parts.trans (List.append_nil executed)).symm
        | cons scenario rest =>
            have cancelled := stops (List.cons_ne_nil scenario rest)
            exact absurd (uncancelled.symm.trans cancelled) (by decide)

/-- Whatever the crew answers, and whenever the drill is cancelled, a run leaves a
trace of its drill. -/
theorem run_leaves_trace (crew : Crew World) (drill : Drill) (world : World) :
    drill.Trace crew (crew.wait.run world).1 (drill.run crew world).2 (drill.run crew world).1 := by
  cases readiness : (crew.wait.run world).1 with
  | timedOut =>
      rw [run_of_timedOut crew drill readiness]
      exact .timedOut
  | cancelled =>
      rw [run_of_cancelled crew drill readiness]
      exact .cancelled
  | ready =>
      have turns := turns_episodesOf crew drill.route.name drill.scenarios
        (drill.prepared crew world)
      rcases turns with ⟨executed, skipped, parts, stops, turns⟩
      have deeds := deeds_of_ready crew drill readiness
      rw [run_of_ready crew drill readiness] at deeds ⊢
      exact .ready parts stops turns deeds

end FaultDrill.Drill
