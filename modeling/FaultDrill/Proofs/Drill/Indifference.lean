import FaultDrill.Proofs.Drill.Episode
import Mathlib.Data.List.Forall2

/-!
What a drill measures does not depend on how its commands fare. A crew is divided
into those who look at the target only and whoever works on the control plane.
Whatever goes wrong there, the same load windows are opened, the same is seen in
them, and the drill ends in the same way.
-/

namespace FaultDrill

variable {Load Plane : Type}

/-- Those of a crew who wait for the target, open load windows and know whether the
drill is cancelled. They go by what they have done themselves. -/
structure Gauge (Load : Type) where
  wait : StateM Load Readiness
  isCancelled : Load → Bool
  measure : Duration → Float → StateM Load (Option LoadStats)

/-- The rest of a crew. What is answered to a command and what the clock shows may
depend on anything. -/
structure Operator (Load Plane : Type) where
  perform : Command → Load → StateM Plane (Except CommandError (Option String))
  tells_toxic : ∀ route fault load plane,
    ((perform (.inject route fault) load).run plane).1 ≠ .ok none
  now : Load → StateM Plane Instant
  /-- What becomes of the control plane while nobody works on it. -/
  elapse : Load → Plane → Plane

def Gauge.crew (gauge : Gauge Load) (operator : Operator Load Plane) : Crew (Load × Plane) where
  wait := fun (load, plane) =>
    let (readiness, after) := gauge.wait load
    (readiness, after, operator.elapse after plane)
  isCancelled := fun (load, _) => gauge.isCancelled load
  perform command := fun (load, plane) =>
    let (answer, plane) := operator.perform command load plane
    (answer, load, plane)
  tells_toxic route fault := fun (load, plane) => operator.tells_toxic route fault load plane
  measure length rate := fun (load, plane) =>
    let (stats, after) := gauge.measure length rate load
    (stats, after, operator.elapse after plane)
  now := fun (load, plane) =>
    let (time, plane) := operator.now load plane
    (time, load, plane)

/-- What load windows see in scenarios that are measured one after another, with no
control plane anywhere, and the load they leave. -/
def Gauge.measureAll (gauge : Gauge Load) :
    List Scenario → Load → List (Scenario × Option LoadStats) × Load
  | [], load => ([], load)
  | scenario :: rest, load =>
      if gauge.isCancelled load then ([], load)
      else
        let (stats, after) := (gauge.measure scenario.duration scenario.rate).run load
        let (later, final) := gauge.measureAll rest after
        ((scenario, stats) :: later, final)

/-- The load window that a scenario asks for. -/
def Scenario.window (scenario : Scenario) : Duration × Float :=
  (scenario.duration, scenario.rate)

/-- The load window that an action opens. -/
def Action.window? : Action → Option (Duration × Float)
  | .command _ => none
  | .measure length rate => some (length, rate)

def Progress.windows {World : Type} (progress : Progress World) : List (Duration × Float) :=
  progress.journal.filterMap Action.window?

/-- What a turn sees of its scenario. -/
def Episode.seen {World : Type} (turn : Episode World) : Scenario × Option LoadStats :=
  (turn.scenario, turn.stats)

/-- Rows of the same scenario with the same statistics. Their times may differ, and
with them the rate that was achieved. -/
def ScenarioResult.Agrees (left right : ScenarioResult) : Prop :=
  ∃ scenario stats,
    left = .ofStats scenario stats left.startedAt left.finishedAt ∧
      right = .ofStats scenario stats right.startedAt right.finishedAt

namespace Drill

/-- Two drills end in the same way. -/
inductive SameEnd : Except Failure Conclusion → Except Failure Conclusion → Prop
  | failed {failure} : SameEnd (.error failure) (.error failure)
  | concluded {left right interrupted} :
      List.Forall₂ ScenarioResult.Agrees left right →
      SameEnd (.ok { results := left, interrupted }) (.ok { results := right, interrupted })

/-! ## One turn -/

section Windows

variable {World : Type} (crew : Crew World) (route : String)

theorem arm_windows (fault : Option Fault) (world : World) :
    ((arm crew route fault).run { world }).2.windows = [] := by
  cases fault with
  | none => rfl
  | some fault =>
      by_cases isToxic : fault = .disable
      · subst isToxic
        rw [arm_disable]
        rfl
      · rw [arm_toxic crew route isToxic]
        rfl

theorem release_windows (armed : Armed) (world : World) :
    ((release crew route armed).run { world }).2.windows = [] := by
  cases armed <;> rfl

theorem episode_windows (scenario : Scenario) (world : World) :
    ((episode crew route scenario world).deeds.map Deed.action).filterMap Action.window? =
      [scenario.window] := by
  have opening := arm_windows crew route scenario.fault world
  have closing := release_windows crew route
  simp only [Progress.windows, Progress.journal] at opening closing
  simp [Episode.deeds, episode, opening, closing, Action.window?, Scenario.window]

theorem episodesOf_windows (scenarios : List Scenario) (world : World) :
    (((episodesOf crew route scenarios world).flatMap Episode.deeds).map
        Deed.action).filterMap Action.window? =
      (episodesOf crew route scenarios world).map (·.scenario.window) := by
  induction scenarios generalizing world with
  | nil => rfl
  | cons scenario rest induction =>
      rw [episodesOf]
      split
      · rfl
      · simp only [List.flatMap_cons, List.map_append, List.filterMap_append, episode_windows,
          induction, List.map_cons]
        rfl

theorem windows_of_ready (drill : Drill) {world : World}
    (ready : (crew.wait.run world).1 = .ready) :
    (drill.run crew world).2.windows =
      (drill.episodes crew world).map (·.scenario.window) := by
  rw [Progress.windows, Progress.journal, deeds_of_ready crew drill ready, List.map_append,
    List.filterMap_append]
  exact episodesOf_windows crew drill.route.name drill.scenarios _

end Windows

variable (gauge : Gauge Load) (operator : Operator Load Plane) (route : String)

/-- Nothing that is done for a fault touches the load. -/
theorem arm_load (fault : Option Fault) (load : Load) (plane : Plane) :
    ((arm (gauge.crew operator) route fault).run { world := (load, plane) }).2.world.1 = load := by
  cases fault with
  | none => rfl
  | some fault =>
      by_cases isToxic : fault = .disable
      · subst isToxic
        rw [arm_disable]
        rfl
      · rw [arm_toxic _ route isToxic]
        rfl

theorem release_load (armed : Armed) (load : Load) (plane : Plane) :
    ((release (gauge.crew operator) route armed).run { world := (load, plane) }).2.world.1 =
      load := by
  cases armed <;> rfl

theorem episode_load (scenario : Scenario) (load : Load) (plane : Plane) :
    let turn := episode (gauge.crew operator) route scenario (load, plane)
    (turn.stats, turn.finish.1) = (gauge.measure scenario.duration scenario.rate).run load := by
  intro turn
  have opened : turn.window.world.1 = load :=
    arm_load gauge operator route scenario.fault load plane
  have measured : turn.stats =
      ((gauge.measure scenario.duration scenario.rate).run turn.window.world.1).1 := rfl
  have finished : turn.finish.1 =
      ((gauge.measure scenario.duration scenario.rate).run turn.window.world.1).2 :=
    release_load gauge operator route turn.armed _ _
  rw [measured, finished, opened]
  rfl

/-! ## Whole drills -/

/-- The turns of a drill see what would be seen without a control plane. -/
theorem episodesOf_load (scenarios : List Scenario) (load : Load) (plane : Plane) :
    let turns := episodesOf (gauge.crew operator) route scenarios (load, plane)
    (turns.map Episode.seen, (worldAfter (load, plane) turns).1) =
      gauge.measureAll scenarios load := by
  induction scenarios generalizing load plane with
  | nil => rfl
  | cons scenario rest induction =>
      have turn := episode_load gauge operator route scenario load plane
      have goesOn : (gauge.crew operator).isCancelled (load, plane) = gauge.isCancelled load := rfl
      rw [Gauge.measureAll, episodesOf, goesOn]
      split
      · rfl
      · rw [← turn]
        have later := induction
          (episode (gauge.crew operator) route scenario (load, plane)).finish.1
          (episode (gauge.crew operator) route scenario (load, plane)).finish.2
        simp only [← later]
        rfl

theorem agrees_of_turns {Left Right : Type} {turn : Episode Left} {twin : Episode Right}
    (equal : turn.seen = twin.seen) : turn.result.Agrees twin.result := by
  rcases Prod.mk.inj equal with ⟨scenario, stats⟩
  refine ⟨turn.scenario, turn.stats.getD (.ofOutcomes 0 []), rfl, ?_⟩
  rw [scenario, stats]
  rfl

theorem results_agree {Left Right : Type} {turns : List (Episode Left)}
    {twins : List (Episode Right)} (equal : turns.map Episode.seen = twins.map Episode.seen) :
    List.Forall₂ ScenarioResult.Agrees (turns.map Episode.result) (twins.map Episode.result) := by
  rw [← List.forall₂_eq_eq_eq, List.forall₂_map_left_iff, List.forall₂_map_right_iff] at equal
  rw [List.forall₂_map_left_iff, List.forall₂_map_right_iff]
  exact equal.imp fun _ _ => agrees_of_turns

/-- Two crews whose wait and load windows are the same may get on with the control
plane as they like, and fail in setting it up, in arming faults or in taking them away.
The drill ends in the same way, with the same load windows and the same seen in them.
The windows are those of the scenarios in the results. -/
theorem measured_alike {Left Right : Type} (gauge : Gauge Load) (left : Operator Load Left)
    (right : Operator Load Right) (drill : Drill) (load : Load) (here : Left) (there : Right) :
    let one := drill.run (gauge.crew left) (load, here)
    let other := drill.run (gauge.crew right) (load, there)
    SameEnd one.1 other.1 ∧ one.2.windows = other.2.windows ∧
      ∀ conclusion, one.1 = .ok conclusion →
        one.2.windows = conclusion.results.map (·.scenario.window) := by
  intro one other
  have waits : ∀ {Plane : Type} (operator : Operator Load Plane) plane,
      ((gauge.crew operator).wait.run (load, plane)).1 = (gauge.wait.run load).1 :=
    fun _ _ => rfl
  cases readiness : (gauge.wait.run load).1 with
  | timedOut =>
      have oneEnd := run_of_timedOut (gauge.crew left) drill ((waits left here).trans readiness)
      have otherEnd :=
        run_of_timedOut (gauge.crew right) drill ((waits right there).trans readiness)
      simp only [one, other, oneEnd, otherEnd]
      exact ⟨.failed, rfl, by simp⟩
  | cancelled =>
      have oneEnd := run_of_cancelled (gauge.crew left) drill ((waits left here).trans readiness)
      have otherEnd :=
        run_of_cancelled (gauge.crew right) drill ((waits right there).trans readiness)
      simp only [one, other, oneEnd, otherEnd]
      refine ⟨.concluded .nil, rfl, ?_⟩
      rintro conclusion ⟨⟩
      rfl
  | ready =>
      have oneReady := (waits left here).trans readiness
      have otherReady := (waits right there).trans readiness
      let turns := drill.episodes (gauge.crew left) (load, here)
      let twins := drill.episodes (gauge.crew right) (load, there)
      have seen : (turns.map Episode.seen, (drill.finish (gauge.crew left) (load, here)).1) =
          (twins.map Episode.seen, (drill.finish (gauge.crew right) (load, there)).1) :=
        (episodesOf_load gauge left drill.route.name drill.scenarios (gauge.wait.run load).2 _).trans
          (episodesOf_load gauge right drill.route.name drill.scenarios
            (gauge.wait.run load).2 _).symm
      rcases Prod.mk.inj seen with ⟨same, finish⟩
      have interrupted : (gauge.crew left).isCancelled (drill.finish (gauge.crew left) (load, here)) =
          (gauge.crew right).isCancelled (drill.finish (gauge.crew right) (load, there)) :=
        congrArg gauge.isCancelled finish
      have windows : turns.map (·.scenario.window) = twins.map (·.scenario.window) := by
        have sameWindows := congrArg (List.map fun seen => seen.1.window) same
        rwa [List.map_map, List.map_map] at sameWindows
      have oneWindows := windows_of_ready (gauge.crew left) drill oneReady
      have otherWindows := windows_of_ready (gauge.crew right) drill otherReady
      have oneEnd := congrArg Prod.fst (run_of_ready (gauge.crew left) drill oneReady)
      have otherEnd := congrArg Prod.fst (run_of_ready (gauge.crew right) drill otherReady)
      refine ⟨?_, oneWindows.trans (windows.trans otherWindows.symm), ?_⟩
      · simp only [one, other, oneEnd, otherEnd, interrupted]
        exact .concluded (results_agree same)
      · intro conclusion concluded
        cases oneEnd.symm.trans concluded
        simp only [one, oneWindows, List.map_map]
        rfl

end Drill

end FaultDrill
