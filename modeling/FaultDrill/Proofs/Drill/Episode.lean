import FaultDrill.Drill.Run

/-!
What a drill writes into its journal. Once the target is ready the control plane
is reset and the route configured; then comes one episode for each scenario that
is run: what arms its fault, its load window, and what takes the fault away.
-/

namespace FaultDrill

/-! ## Courses -/

namespace Course

variable {World : Type} {α β : Type}

theorem run_bind (course : Course World α) (next : α → Course World β)
    (progress : Progress World) :
    (course >>= next).run progress =
      (next (course.run progress).1).run (course.run progress).2 := rfl

theorem run_perform (crew : Crew World) (command : Command) (progress : Progress World) :
    (perform crew command).run progress =
      (((crew.perform command).run progress.world).1,
        { world := ((crew.perform command).run progress.world).2
          latest := ⟨.command command, progress.world⟩ :: progress.latest }) := rfl

theorem run_measure (crew : Crew World) (length : Duration) (rate : Float)
    (progress : Progress World) :
    (measure crew length rate).run progress =
      (((crew.measure length rate).run progress.world).1,
        { world := ((crew.measure length rate).run progress.world).2
          latest := ⟨.measure length rate, progress.world⟩ :: progress.latest }) := rfl

theorem run_quietly (act : StateM World α) (progress : Progress World) :
    (quietly act).run progress =
      ((act.run progress.world).1,
        { progress with world := (act.run progress.world).2 }) := rfl

theorem run_isCancelled (crew : Crew World) (progress : Progress World) :
    (isCancelled crew).run progress = (crew.isCancelled progress.world, progress) := rfl

/-- A course adds to the journal and does not look at it. -/
def Appends (course : Course World α) : Prop :=
  ∀ progress : Progress World,
    course.run progress =
      ((course.run { world := progress.world }).1,
        { world := (course.run { world := progress.world }).2.world
          latest := (course.run { world := progress.world }).2.latest ++ progress.latest })

namespace Appends

theorem ofPure (value : α) : Appends (pure value : Course World α) :=
  fun _ => rfl

theorem bind {course : Course World α} {next : α → Course World β}
    (first : course.Appends) (second : ∀ value, (next value).Appends) :
    Appends (course >>= next) := by
  intro progress
  rw [run_bind, run_bind, first progress, second _ ⟨_, _ ++ progress.latest⟩,
    second _ (course.run { world := progress.world }).2]
  simp [List.append_assoc]

theorem perform (crew : Crew World) (command : Command) :
    (Course.perform crew command).Appends :=
  fun _ => rfl

end Appends

end Course

/-! ## Arming and releasing -/

namespace Drill

variable {World : Type} (crew : Crew World) (route : String)

theorem arm_toxic {fault : Fault} (isToxic : fault ≠ .disable) (world : World) :
    (arm crew route (some fault)).run { world } =
      (.toxic ((crew.perform (.inject route fault)).run world).1.toOption.join,
        { world := ((crew.perform (.inject route fault)).run world).2
          latest := [⟨.command (.inject route fault), world⟩] }) := by
  cases fault with
  | latency delay jitter =>
      rw [arm, Course.run_bind, Course.run_perform]
      · cases ((crew.perform (.inject route (.latency delay jitter))).run world).1 <;> rfl
      · exact isToxic
  | bandwidth rate =>
      rw [arm, Course.run_bind, Course.run_perform]
      · cases ((crew.perform (.inject route (.bandwidth rate))).run world).1 <;> rfl
      · exact isToxic
  | disable => exact absurd rfl isToxic

theorem arm_disable (world : World) :
    (arm crew route (some .disable)).run { world } =
      (if ((crew.perform (.enable route false)).run world).1.toBool then .routeDown else .nothing,
        { world := ((crew.perform (.enable route false)).run world).2
          latest := [⟨.command (.enable route false), world⟩] }) := by
  rw [arm, Course.run_bind, Course.run_perform]
  cases ((crew.perform (.enable route false)).run world).1 <;> rfl

theorem release_toxic (toxic : Option String) (world : World) :
    (release crew route (.toxic toxic)).run { world } =
      ((), { world := ((crew.perform (.remove route toxic)).run world).2
             latest := [⟨.command (.remove route toxic), world⟩] }) := rfl

theorem release_routeDown (world : World) :
    (release crew route .routeDown).run { world } =
      ((), { world := ((crew.perform (.enable route true)).run world).2
             latest := [⟨.command (.enable route true), world⟩] }) := rfl

theorem arm_appends (fault : Option Fault) : (arm crew route fault).Appends := by
  cases fault with
  | none => exact .ofPure _
  | some fault =>
      cases fault <;>
      · refine .bind (.perform crew _) fun answer => ?_
        cases answer <;> exact .ofPure _

theorem release_appends (armed : Armed) : (release crew route armed).Appends := by
  cases armed with
  | nothing => exact .ofPure _
  | toxic name => exact .bind (.perform crew _) fun _ => .ofPure _
  | routeDown => exact .bind (.perform crew _) fun _ => .ofPure _

end Drill

/-! ## Episodes -/

structure Episode (World : Type) where
  scenario : Scenario
  /-- The world in which the turn began. -/
  start : World
  armed : Drill.Armed
  opening : List (Deed World)
  window : Deed World
  /-- What the load window saw, unless it broke down. -/
  stats : Option LoadStats
  startedAt : Instant
  finishedAt : Instant
  closing : List (Deed World)
  finish : World

namespace Episode

variable {World : Type}

def deeds (episode : Episode World) : List (Deed World) :=
  episode.opening ++ episode.window :: episode.closing

/-- The row of the report. A load window that broke down has seen nothing. -/
def result (episode : Episode World) : ScenarioResult :=
  .ofStats episode.scenario (episode.stats.getD (.ofOutcomes 0 [])) episode.startedAt
    episode.finishedAt

end Episode

namespace Drill

variable {World : Type} (crew : Crew World) (route : String)

def episode (scenario : Scenario) (world : World) : Episode World :=
  let armed := (arm crew route scenario.fault).run { world }
  let started := crew.now.run armed.2.world
  let measured := (crew.measure scenario.duration scenario.rate).run started.2
  let finished := crew.now.run measured.2
  let released := (release crew route armed.1).run { world := finished.2 }
  { scenario
    start := world
    armed := armed.1
    opening := armed.2.deeds
    window := ⟨.measure scenario.duration scenario.rate, started.2⟩
    stats := measured.1
    startedAt := started.1
    finishedAt := finished.1
    closing := released.2.deeds
    finish := released.2.world }

theorem episode_disable_opening {scenario : Scenario} (down : scenario.fault = some .disable)
    (world : World) :
    (episode crew route scenario world).opening = [⟨.command (.enable route false), world⟩] := by
  simp only [episode, down, arm_disable]
  rfl

theorem episode_disable_closing {scenario : Scenario} (down : scenario.fault = some .disable)
    (world : World) :
    (episode crew route scenario world).closing.map Deed.action =
      if ((crew.perform (.enable route false)).run world).1.toBool
      then [.command (.enable route true)] else [] := by
  simp only [episode, down, arm_disable]
  cases ((crew.perform (.enable route false)).run world).1.toBool <;> rfl

theorem episode_toxic_opening {scenario : Scenario} {fault : Fault} (isToxic : fault ≠ .disable)
    (armed : scenario.fault = some fault) (world : World) :
    (episode crew route scenario world).opening = [⟨.command (.inject route fault), world⟩] := by
  simp only [episode, armed, arm_toxic crew route isToxic]
  rfl

theorem episode_toxic_closing {scenario : Scenario} {fault : Fault} (isToxic : fault ≠ .disable)
    (armed : scenario.fault = some fault) (world : World) :
    (episode crew route scenario world).closing.map Deed.action =
      [.command (.remove route
        ((crew.perform (.inject route fault)).run world).1.toOption.join)] := by
  simp only [episode, armed, arm_toxic crew route isToxic]
  rfl

/-- The turns of scenarios up to the first that the drill is cancelled before. -/
def episodesOf : List Scenario → World → List (Episode World)
  | [], _ => []
  | scenario :: rest, world =>
      if crew.isCancelled world then []
      else
        let first := episode crew route scenario world
        first :: episodesOf rest first.finish

def worldAfter (world : World) (episodes : List (Episode World)) : World :=
  episodes.foldl (fun _ episode => episode.finish) world

theorem execute_run (scenario : Scenario) (progress : Progress World) :
    (execute crew route scenario).run progress =
      ((episode crew route scenario progress.world).result,
        { world := (episode crew route scenario progress.world).finish
          latest := (episode crew route scenario progress.world).deeds.reverse ++
            progress.latest }) := by
  unfold execute
  simp only [Course.run_bind, Course.run_quietly, Course.run_measure]
  rw [arm_appends crew route scenario.fault progress, release_appends]
  simp [episode, Episode.result, Episode.deeds, Progress.deeds]
  rfl

theorem executeAll_run (scenarios : List Scenario) (progress : Progress World) :
    (executeAll crew route scenarios).run progress =
      let episodes := episodesOf crew route scenarios progress.world
      (episodes.map Episode.result,
        { world := worldAfter progress.world episodes
          latest := (episodes.flatMap Episode.deeds).reverse ++ progress.latest }) := by
  induction scenarios generalizing progress with
  | nil => rfl
  | cons scenario rest induction =>
      rw [executeAll, Course.run_bind, Course.run_isCancelled]
      cases cancelled : crew.isCancelled progress.world with
      | true => simp [episodesOf, cancelled]; rfl
      | false =>
          simp only [Bool.false_eq_true, if_false, Course.run_bind, execute_run, induction]
          simp [episodesOf, cancelled, worldAfter]
          rfl

/-- What every turn preserves holds before each turn and after the last. -/
theorem episodesOf_invariant (Invariant : World → Prop)
    (preserved : ∀ scenario world, Invariant world →
      Invariant (episode crew route scenario world).finish)
    (scenarios : List Scenario) {world : World} (initial : Invariant world) :
    (∀ turn ∈ episodesOf crew route scenarios world,
      turn = episode crew route turn.scenario turn.start ∧ Invariant turn.start) ∧
    Invariant (worldAfter world (episodesOf crew route scenarios world)) := by
  induction scenarios generalizing world with
  | nil => exact ⟨by simp [episodesOf], initial⟩
  | cons scenario rest induction =>
      rw [episodesOf]
      split
      · exact ⟨by simp, initial⟩
      · have later := induction (preserved scenario world initial)
        refine ⟨?_, later.2⟩
        intro turn member
        rcases List.mem_cons.mp member with equal | member
        · subst equal
          exact ⟨rfl, initial⟩
        · exact later.1 turn member

/-- The turns are those of the first scenarios, in order. -/
theorem episodesOf_scenarios (scenarios : List Scenario) (world : World) :
    (episodesOf crew route scenarios world).map Episode.scenario <+: scenarios := by
  induction scenarios generalizing world with
  | nil => exact List.prefix_rfl
  | cons scenario rest induction =>
      rw [episodesOf]
      split
      · exact List.nil_prefix
      · exact (List.cons_prefix_cons).mpr ⟨rfl, induction _⟩

/-! ## Whole drills -/

/-- What is done to the control plane before the first turn. -/
def preparation (drill : Drill) (world : World) : List (Deed World) :=
  let ready := (crew.wait.run world).2
  let reset := ((crew.perform .reset).run ready).2
  [⟨.command .reset, ready⟩, ⟨.command (.configure drill.route), reset⟩]

/-- The world in which the first turn begins. -/
def prepared (drill : Drill) (world : World) : World :=
  let ready := (crew.wait.run world).2
  let reset := ((crew.perform .reset).run ready).2
  ((crew.perform (.configure drill.route)).run reset).2

/-- The turns of a drill whose target gets ready. -/
def episodes (drill : Drill) (world : World) : List (Episode World) :=
  episodesOf crew drill.route.name drill.scenarios (drill.prepared crew world)

theorem eq_episode_of_mem {drill : Drill} {world : World} {turn : Episode World}
    (member : turn ∈ drill.episodes crew world) :
    turn = episode crew drill.route.name turn.scenario turn.start :=
  ((episodesOf_invariant crew drill.route.name (fun _ => True) (fun _ _ _ => trivial)
    drill.scenarios trivial).1 turn member).1

def finish (drill : Drill) (world : World) : World :=
  worldAfter (drill.prepared crew world) (drill.episodes crew world)

theorem run_of_ready (drill : Drill) {world : World}
    (ready : (crew.wait.run world).1 = .ready) :
    drill.run crew world =
      (.ok { results := (drill.episodes crew world).map Episode.result
             interrupted := crew.isCancelled (drill.finish crew world) },
        { world := drill.finish crew world
          latest := (drill.preparation crew world ++
            (drill.episodes crew world).flatMap Episode.deeds).reverse }) := by
  rw [run, course, Course.run_bind, Course.run_quietly]
  simp only [ready, prepare, Course.run_bind, Course.run_perform, executeAll_run]
  simp [Course.run_isCancelled, episodes, finish, prepared, preparation]
  rfl

theorem deeds_of_ready (drill : Drill) {world : World}
    (ready : (crew.wait.run world).1 = .ready) :
    (drill.run crew world).2.deeds =
      drill.preparation crew world ++ (drill.episodes crew world).flatMap Episode.deeds := by
  rw [run_of_ready crew drill ready, Progress.deeds, List.reverse_reverse]

theorem run_of_timedOut (drill : Drill) {world : World}
    (timedOut : (crew.wait.run world).1 = .timedOut) :
    drill.run crew world =
      (.error (.notReady drill.patience.seconds), { world := (crew.wait.run world).2 }) := by
  rw [run, course, Course.run_bind, Course.run_quietly]
  simp only [timedOut]
  rfl

theorem run_of_cancelled (drill : Drill) {world : World}
    (cancelled : (crew.wait.run world).1 = .cancelled) :
    drill.run crew world =
      (.ok { results := [], interrupted := true }, { world := (crew.wait.run world).2 }) := by
  rw [run, course, Course.run_bind, Course.run_quietly]
  simp only [cancelled]
  rfl

end Drill

end FaultDrill
