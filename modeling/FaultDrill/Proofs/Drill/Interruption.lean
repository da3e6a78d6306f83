import FaultDrill.Drill.Script
import FaultDrill.Proofs.Drill.Trace

/-!
What it means that a drill was interrupted. Whether it is cancelled is asked between turns
and at the end, but a turn does not end with its load window: it has to take its fault away
first, and a drill that is cancelled meanwhile has lost nothing.
-/

namespace FaultDrill

variable {World : Type}

/-- Nobody takes back that a drill is cancelled. -/
structure Crew.CancelsForGood (crew : Crew World) : Prop where
  perform : ∀ command world, crew.isCancelled world = true →
    crew.isCancelled ((crew.perform command).run world).2 = true
  measure : ∀ length rate world, crew.isCancelled world = true →
    crew.isCancelled ((crew.measure length rate).run world).2 = true
  now : ∀ world, crew.isCancelled world = true → crew.isCancelled (crew.now.run world).2 = true

theorem Script.cancelsForGood (script : Script) : script.crew.CancelsForGood where
  perform command stage cancelled := by
    change (stage.cancelled || _) = true
    rw [show stage.cancelled = true from cancelled, Bool.true_or]
  measure length rate stage cancelled := by
    change ((stage.cancelled || _) || _) = true
    rw [show stage.cancelled = true from cancelled, Bool.true_or, Bool.true_or]
  now stage cancelled := cancelled

/-- The world in which the load window of a turn is over. -/
def Episode.returned (crew : Crew World) (turn : Episode World) : World :=
  ((crew.measure turn.scenario.duration turn.scenario.rate).run turn.window.world).2

namespace Drill

variable (crew : Crew World) (drill : Drill) (world : World)

/-- A drill is cut short if a scenario has no result, or if it was cancelled before the
last load window was over. -/
inductive IsCutShort : Prop
  | skipped : (drill.episodes crew world).length < drill.scenarios.length → IsCutShort
  | cutOff {turns turn} : drill.episodes crew world = turns ++ [turn] →
      crew.isCancelled (turn.returned crew) = true → IsCutShort

/-- A drill is cancelled late if its last load window is over by then but the turn is not,
or at any time if there are no scenarios. -/
inductive IsCancelledLate : Prop
  | closing {turns turn} : drill.episodes crew world = turns ++ [turn] →
      turns.length + 1 = drill.scenarios.length →
      crew.isCancelled (turn.returned crew) = false → crew.isCancelled turn.finish = true →
      IsCancelledLate
  | idle : drill.scenarios = [] → crew.isCancelled (drill.prepared crew world) = true →
      IsCancelledLate

theorem episodes_length_le :
    (drill.episodes crew world).length ≤ drill.scenarios.length := by
  have first := episodesOf_scenarios crew drill.route.name drill.scenarios
    (drill.prepared crew world)
  simpa [episodes] using first.length_le

theorem episodes_eq_nil (none : drill.scenarios = []) : drill.episodes crew world = [] := by
  have bound := episodes_length_le crew drill world
  rw [none] at bound
  exact List.eq_nil_of_length_eq_zero (Nat.le_zero.mp bound)

variable {crew drill world}

/-! ## Turns -/

theorem isCancelled_release (forGood : crew.CancelsForGood) (route : String) (armed : Armed)
    (cancelled : crew.isCancelled world = true) :
    crew.isCancelled ((release crew route armed).run { world }).2.world = true := by
  cases armed with
  | nothing => exact cancelled
  | toxic name => exact forGood.perform _ _ cancelled
  | routeDown => exact forGood.perform _ _ cancelled

theorem isCancelled_finish (forGood : crew.CancelsForGood) {turn : Episode World}
    (member : turn ∈ drill.episodes crew world)
    (cancelled : crew.isCancelled (turn.returned crew) = true) :
    crew.isCancelled turn.finish = true := by
  rw [eq_episode_of_mem crew member] at cancelled ⊢
  exact isCancelled_release forGood _ _ (forGood.now _ cancelled)

theorem finish_of_episodes_eq_concat {turns : List (Episode World)} {turn : Episode World}
    (last : drill.episodes crew world = turns ++ [turn]) :
    drill.finish crew world = turn.finish := by
  rw [finish, worldAfter, last, List.foldl_append]
  rfl

theorem finish_of_episodes_eq_nil (none : drill.episodes crew world = []) :
    drill.finish crew world = drill.prepared crew world := by
  rw [finish, none]
  rfl

/-! ## Drills -/

theorem isCancelled_of_skipped (ready : (crew.wait.run world).1 = .ready)
    (skipped : (drill.episodes crew world).length < drill.scenarios.length) :
    crew.isCancelled (drill.finish crew world) = true := by
  have outcome := congrArg Prod.fst (run_of_ready crew drill ready)
  have all := (scenarios_of_run crew drill world outcome).2
  cases goesOn : crew.isCancelled (drill.finish crew world) with
  | true => rfl
  | false =>
      have lengths := congrArg List.length (all goesOn)
      simp only [List.length_map] at lengths
      omega

theorem IsCutShort.isCancelled (forGood : crew.CancelsForGood)
    (ready : (crew.wait.run world).1 = .ready) (short : drill.IsCutShort crew world) :
    crew.isCancelled (drill.finish crew world) = true := by
  cases short with
  | skipped skipped => exact isCancelled_of_skipped ready skipped
  | cutOff last cancelled =>
      rw [finish_of_episodes_eq_concat last]
      exact isCancelled_finish forGood (last ▸ List.mem_concat_self) cancelled

theorem IsCancelledLate.isCancelled (late : drill.IsCancelledLate crew world) :
    crew.isCancelled (drill.finish crew world) = true := by
  cases late with
  | closing last _ _ cancelled => exact finish_of_episodes_eq_concat last ▸ cancelled
  | idle none cancelled => exact finish_of_episodes_eq_nil (episodes_eq_nil _ _ _ none) ▸ cancelled

theorem IsCancelledLate.not_isCutShort (late : drill.IsCancelledLate crew world) :
    ¬ drill.IsCutShort crew world := by
  intro short
  cases late with
  | closing last all goesOn _ =>
      cases short with
      | skipped skipped =>
          rw [last, List.length_append, List.length_singleton] at skipped
          omega
      | cutOff same cancelled =>
          rcases List.append_inj' (last.symm.trans same) rfl with ⟨_, turns⟩
          cases turns
          rw [goesOn] at cancelled
          cases cancelled
  | idle none _ =>
      have nothing := episodes_eq_nil crew drill world none
      cases short with
      | skipped skipped =>
          rw [none] at skipped
          cases skipped
      | cutOff same _ =>
          rw [nothing] at same
          exact List.append_ne_nil_of_right_ne_nil _ (List.cons_ne_nil _ _) same.symm

theorem isCutShort_or_isCancelledLate
    (cancelled : crew.isCancelled (drill.finish crew world) = true) :
    drill.IsCutShort crew world ∨ drill.IsCancelledLate crew world := by
  rcases Nat.lt_or_eq_of_le (episodes_length_le crew drill world) with skipped | all
  · exact .inl (.skipped skipped)
  · rcases List.eq_nil_or_concat (drill.episodes crew world) with none | ⟨turns, turn, last⟩
    · rw [none] at all
      rw [finish_of_episodes_eq_nil none] at cancelled
      exact .inr (.idle (List.eq_nil_of_length_eq_zero all.symm) cancelled)
    · rw [List.concat_eq_append] at last
      rw [last, List.length_append] at all
      rw [finish_of_episodes_eq_concat last] at cancelled
      cases goesOn : crew.isCancelled (turn.returned crew) with
      | true => exact .inl (.cutOff last goesOn)
      | false => exact .inr (.closing last all goesOn cancelled)

/-- A drill is said to be interrupted if it was cut short, and also if it was cancelled
late. -/
theorem isCancelled_finish_iff (forGood : crew.CancelsForGood)
    (ready : (crew.wait.run world).1 = .ready) :
    crew.isCancelled (drill.finish crew world) = true ↔
      drill.IsCutShort crew world ∨ drill.IsCancelledLate crew world := by
  refine ⟨isCutShort_or_isCancelledLate, ?_⟩
  rintro (short | late)
  · exact short.isCancelled forGood ready
  · exact late.isCancelled

/-- A drill that is cancelled while it takes its only fault away. -/
theorem interrupted_complete :
    let script : Script := { cancelsBefore := some 4, time := .epoch }
    let scenario : Scenario := ⟨"Latency", 1, 2, some (.latency 100 0)⟩
    let drill : Drill := { route := {}, scenarios := [scenario], patience := .ofSeconds 1 }
    ∃ conclusion, (drill.run script.crew {}).1 = .ok conclusion ∧
      conclusion.interrupted = true ∧ ¬ drill.IsCutShort script.crew {} := by
  intro script scenario drill
  let turn := episode script.crew drill.route.name scenario (drill.prepared script.crew {})
  have last : drill.episodes script.crew {} = [] ++ [turn] := rfl
  have late : drill.IsCancelledLate script.crew {} := .closing last rfl rfl rfl
  exact ⟨_, congrArg Prod.fst (run_of_ready script.crew drill rfl), late.isCancelled,
    late.not_isCutShort⟩

end Drill

end FaultDrill
