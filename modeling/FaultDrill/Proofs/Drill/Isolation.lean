import FaultDrill.Drill.Script
import FaultDrill.Proofs.Drill.Noting
import Mathlib.Data.Finset.Card
import Mathlib.Data.Finset.Filter

/-!
Scenarios do not disturb one another. On a control plane that does what it says,
at most one fault stands at any time, each load window is measured under its
scenario's own fault and no other, and none is left when the drill is over.
-/

namespace FaultDrill

/-! ## What stands on the control plane -/

inductive Disturbance where
  | toxic (route name : String) (fault : Fault)
  | down (route : String)
  deriving DecidableEq

def Disturbance.isToxic (route name : String) : Disturbance → Bool
  | .toxic on known _ => on = route && known = name
  | .down _ => false

/-- What stands after a command was carried out and has told something. -/
def Command.effect (told : Option String) (standing : Finset Disturbance) :
    Command → Finset Disturbance
  | .reset => ∅
  | .configure _ => standing
  | .inject route fault => told.elim standing fun name => insert (.toxic route name fault) standing
  | .remove route toxic => toxic.elim standing fun name =>
      standing.filter fun disturbance => !disturbance.isToxic route name
  | .enable route true => standing.erase (.down route)
  | .enable route false => insert (.down route) standing

def Crew.account {World : Type} (crew : Crew World) (deed : Deed World)
    (standing : Finset Disturbance) : Finset Disturbance :=
  match deed.action with
  | .command command =>
      match ((crew.perform command).run deed.world).1 with
      | .ok told => command.effect told standing
      | .error _ => standing
  | .measure _ _ => standing

namespace Drill

variable {World : Type}

/-- What stands is changed by commands only, and by those only as they say. The
control plane can always be reset, and what stands on it can be taken away. -/
structure Faithful (crew : Crew World) (standing : World → Finset Disturbance) : Prop where
  carriedOut : ∀ command world told, ((crew.perform command).run world).1 = .ok told →
    standing ((crew.perform command).run world).2 = command.effect told (standing world)
  failed : ∀ command world error, ((crew.perform command).run world).1 = .error error →
    standing ((crew.perform command).run world).2 = standing world
  resets : ∀ world error, ((crew.perform .reset).run world).1 ≠ .error error
  removes : ∀ route name fault world error, .toxic route name fault ∈ standing world →
    ((crew.perform (.remove route (some name))).run world).1 ≠ .error error
  switchesOn : ∀ route world error, .down route ∈ standing world →
    ((crew.perform (.enable route true)).run world).1 ≠ .error error
  measure : ∀ length rate world,
    standing ((crew.measure length rate).run world).2 = standing world
  now : ∀ world, standing (crew.now.run world).2 = standing world

variable {crew : Crew World} {standing : World → Finset Disturbance}

/-- The fault that stands while a scenario is measured: its own, if it can be
armed in the world in which its turn begins. -/
def ownFault (crew : Crew World) (route : String) (fault : Option Fault) (start : World) :
    Finset Disturbance :=
  match fault with
  | none => ∅
  | some .disable =>
      match ((crew.perform (.enable route false)).run start).1 with
      | .ok _ => {.down route}
      | .error _ => ∅
  | some fault =>
      match ((crew.perform (.inject route fault)).run start).1 with
      | .ok (some name) => {.toxic route name fault}
      | _ => ∅

def worldBehind (crew : Crew World) (deed : Deed World) : World :=
  match deed.action with
  | .command command => ((crew.perform command).run deed.world).2
  | .measure length rate => ((crew.measure length rate).run deed.world).2

/-! ## One turn -/

variable (route : String)

/-- What a drill holds to be armed is what stands. -/
inductive Holds : Armed → Finset Disturbance → Prop
  | nothing : Holds .nothing ∅
  | noToxic : Holds (.toxic none) ∅
  | toxic {name fault} : Holds (.toxic (some name)) {.toxic route name fault}
  | routeDown : Holds .routeDown {.down route}

theorem Holds.card_le_one {armed : Armed} {raised : Finset Disturbance}
    (holds : Holds route armed raised) : raised.card ≤ 1 := by
  cases holds <;> simp

theorem ownFault_toxic {fault : Fault} (isToxic : fault ≠ .disable) (start : World) :
    ownFault crew route (some fault) start =
      match ((crew.perform (.inject route fault)).run start).1 with
      | .ok (some name) => {.toxic route name fault}
      | _ => ∅ := by
  cases fault <;> first | rfl | contradiction

/-- Arming makes its own fault stand, or nothing, and knows which. -/
theorem arm_raises (faithful : Faithful crew standing) (fault : Option Fault) {world : World}
    (clear : standing world = ∅) :
    let armed := (arm crew route fault).run { world }
    Holds route armed.1 (ownFault crew route fault world) ∧
      standing armed.2.world = ownFault crew route fault world := by
  intro armed
  cases fault with
  | none => exact ⟨.nothing, clear⟩
  | some fault =>
      by_cases isToxic : fault = .disable
      · subst isToxic
        simp only [armed, arm_disable, ownFault]
        cases answer : ((crew.perform (.enable route false)).run world).1 with
        | error error => exact ⟨.nothing, (faithful.failed _ _ _ answer).trans clear⟩
        | ok told =>
            refine ⟨.routeDown, (faithful.carriedOut _ _ _ answer).trans ?_⟩
            simp [Command.effect, clear]
      · simp only [armed, arm_toxic crew route isToxic, ownFault_toxic route isToxic]
        cases answer : ((crew.perform (.inject route fault)).run world).1 with
        | error error => exact ⟨.noToxic, (faithful.failed _ _ _ answer).trans clear⟩
        | ok told =>
            cases told with
            | none => exact absurd answer (crew.tells_toxic route fault world)
            | some name =>
                refine ⟨.toxic, (faithful.carriedOut _ _ _ answer).trans ?_⟩
                simp [Command.effect, clear]

theorem release_clears (faithful : Faithful crew standing) {armed : Armed} {world : World}
    (holds : Holds route armed (standing world)) :
    standing ((release crew route armed).run { world }).2.world = ∅ := by
  -- What is held tells what stands, so that its cases are those of the release.
  generalize raised : standing world = left at holds
  cases holds with
  | nothing => exact raised
  | noToxic =>
      rw [release_toxic]
      cases answer : ((crew.perform (.remove route none)).run world).1 with
      | error error => exact (faithful.failed _ _ _ answer).trans raised
      | ok told => exact (faithful.carriedOut _ _ _ answer).trans raised
  | @toxic name fault =>
      rw [release_toxic]
      cases answer : ((crew.perform (.remove route (some name))).run world).1 with
      | error error =>
          have stands : .toxic route name fault ∈ standing world := by simp [raised]
          exact absurd answer (faithful.removes _ _ _ _ _ stands)
      | ok told =>
          refine (faithful.carriedOut _ _ _ answer).trans ?_
          simp [Command.effect, raised, Disturbance.isToxic]
  | routeDown =>
      rw [release_routeDown]
      cases answer : ((crew.perform (.enable route true)).run world).1 with
      | error error =>
          have stands : .down route ∈ standing world := by simp [raised]
          exact absurd answer (faithful.switchesOn _ _ _ stands)
      | ok told =>
          refine (faithful.carriedOut _ _ _ answer).trans ?_
          simp [Command.effect, raised]

/-- At most one fault stands when a deed is begun, and when it is over. -/
def AtMostOne (crew : Crew World) (standing : World → Finset Disturbance) (deed : Deed World) :
    Prop :=
  (standing deed.world).card ≤ 1 ∧ (standing (worldBehind crew deed)).card ≤ 1

/-- The load window of a turn opens and closes while the scenario's own fault stands
and nothing else does. -/
def MeasuresAlone (crew : Crew World) (standing : World → Finset Disturbance)
    (turn : Episode World) : Prop :=
  standing turn.window.world = ownFault crew route turn.scenario.fault turn.start ∧
    standing (worldBehind crew turn.window) = ownFault crew route turn.scenario.fault turn.start

theorem arm_deeds (fault : Option Fault) (world : World) {deed : Deed World}
    (member : deed ∈ ((arm crew route fault).run { world }).2.deeds) :
    deed.world = world ∧
      worldBehind crew deed = ((arm crew route fault).run { world }).2.world := by
  cases fault with
  | none => cases member
  | some fault =>
      by_cases isToxic : fault = .disable
      · subst isToxic
        rw [arm_disable] at member ⊢
        cases List.mem_singleton.mp member
        exact ⟨rfl, rfl⟩
      · rw [arm_toxic crew route isToxic] at member ⊢
        cases List.mem_singleton.mp member
        exact ⟨rfl, rfl⟩

theorem release_deeds (armed : Armed) (world : World) {deed : Deed World}
    (member : deed ∈ ((release crew route armed).run { world }).2.deeds) :
    deed.world = world ∧
      worldBehind crew deed = ((release crew route armed).run { world }).2.world := by
  cases armed with
  | nothing => cases member
  | toxic name =>
      cases List.mem_singleton.mp member
      exact ⟨rfl, rfl⟩
  | routeDown =>
      cases List.mem_singleton.mp member
      exact ⟨rfl, rfl⟩

/-- A turn that finds the control plane clear is measured alone and leaves it clear. -/
theorem episode_isolated (faithful : Faithful crew standing) (scenario : Scenario)
    {world : World} (clear : standing world = ∅) :
    let turn := episode crew route scenario world
    MeasuresAlone route crew standing turn ∧
      (∀ deed ∈ turn.deeds, AtMostOne crew standing deed) ∧ standing turn.finish = ∅ := by
  intro turn
  let armed := (arm crew route scenario.fault).run { world }
  rcases arm_raises route faithful scenario.fault clear with ⟨holds, raised⟩
  have opened : standing turn.window.world = ownFault crew route scenario.fault world :=
    (faithful.now armed.2.world).trans raised
  have measured : standing (worldBehind crew turn.window) =
      ownFault crew route scenario.fault world :=
    (faithful.measure _ _ turn.window.world).trans opened
  have ended : standing (crew.now.run (worldBehind crew turn.window)).2 =
      ownFault crew route scenario.fault world :=
    (faithful.now _).trans measured
  have held : Holds route armed.1 (standing (crew.now.run (worldBehind crew turn.window)).2) := by
    rw [ended]
    exact holds
  have finished : standing turn.finish = ∅ := release_clears route faithful held
  refine ⟨⟨opened, measured⟩, ?_, finished⟩
  intro deed member
  rcases List.mem_append.mp member with opening | later
  · rcases arm_deeds route scenario.fault world opening with ⟨begun, behind⟩
    rw [AtMostOne, begun, behind, clear, raised]
    exact ⟨by simp, holds.card_le_one⟩
  · rcases List.mem_cons.mp later with window | closing
    · subst window
      rw [AtMostOne, opened, measured]
      exact ⟨holds.card_le_one, holds.card_le_one⟩
    · rcases release_deeds route _ _ closing with ⟨begun, behind⟩
      have before := (congrArg standing begun).trans ended
      have after := (congrArg standing behind).trans finished
      rw [AtMostOne, before, after]
      exact ⟨holds.card_le_one, by simp⟩

/-! ## Whole drills -/

theorem prepared_clear (faithful : Faithful crew standing) (drill : Drill) (world : World) :
    (∀ deed ∈ (drill.preparation crew world).tail, AtMostOne crew standing deed) ∧
      standing (drill.prepared crew world) = ∅ := by
  have reset : standing ((crew.perform .reset).run (crew.wait.run world).2).2 = ∅ := by
    cases answer : ((crew.perform .reset).run (crew.wait.run world).2).1 with
    | error error => exact absurd answer (faithful.resets _ error)
    | ok told => exact faithful.carriedOut _ _ _ answer
  have configured : standing (drill.prepared crew world) = ∅ := by
    cases answer : ((crew.perform (.configure drill.route)).run
        ((crew.perform .reset).run (crew.wait.run world).2).2).1 with
    | error error => exact (faithful.failed _ _ _ answer).trans reset
    | ok told => exact (faithful.carriedOut _ _ _ answer).trans reset
  refine ⟨?_, configured⟩
  intro deed member
  cases List.mem_singleton.mp member
  exact ⟨by rw [reset]; simp, (congrArg Finset.card configured).trans_le (by simp)⟩

/-- On a control plane that does what it says, a drill whose target gets ready has
at most one fault standing at a time once it has reset the control plane. Every
load window is measured under its scenario's own fault and no other. In the end
nothing stands, so that the route is up. -/
theorem faults_isolated (faithful : Faithful crew standing) (drill : Drill) (world : World)
    (ready : (crew.wait.run world).1 = .ready) :
    let progress := (drill.run crew world).2
    let turns := drill.episodes crew world
    turns.map Episode.scenario <+: drill.scenarios ∧
      progress.deeds = drill.preparation crew world ++ turns.flatMap Episode.deeds ∧
      (∀ deed ∈ progress.deeds.tail, AtMostOne crew standing deed) ∧
      (∀ turn ∈ turns, MeasuresAlone drill.route.name crew standing turn) ∧
      standing progress.world = ∅ := by
  rcases prepared_clear faithful drill world with ⟨preparing, clear⟩
  have isolated := fun scenario world =>
    @episode_isolated World crew standing drill.route.name faithful scenario world
  have alwaysClear := episodesOf_invariant crew drill.route.name (standing · = ∅)
    (fun scenario world clear => (isolated scenario world clear).2.2) drill.scenarios clear
  rcases alwaysClear with ⟨turns, final⟩
  have deeds := deeds_of_ready crew drill ready
  refine ⟨episodesOf_scenarios crew _ _ _, deeds, ?_, ?_, ?_⟩
  · intro deed member
    rw [deeds, List.tail_append_of_ne_nil (by simp [preparation])] at member
    rcases List.mem_append.mp member with early | later
    · exact preparing deed early
    · rcases List.mem_flatMap.mp later with ⟨turn, inTurns, member⟩
      rcases turns turn inTurns with ⟨equal, clear⟩
      rw [equal] at member
      exact (isolated turn.scenario turn.start clear).2.1 deed member
  · intro turn member
    rcases turns turn member with ⟨equal, clear⟩
    rw [equal]
    exact (isolated turn.scenario turn.start clear).1
  · rw [run_of_ready crew drill ready]
    exact final

/-! ## Control planes that keep account -/

theorem ne_error_of_isOk {Error Value : Type} {answer : Except Error Value} (ok : answer.isOk)
    (error : Error) : answer ≠ .error error := by
  intro failed
  rw [failed] at ok
  cases ok

/-- A control plane that accounts for what stands on it does what it says if it can
be reset and what stands on it can be taken away. -/
theorem faithful_accounting (crew : Crew World) (isCancelled : World → Finset Disturbance → Bool)
    (resets : ∀ world, ((crew.perform .reset).run world).1.isOk)
    (removes : ∀ route name world, ((crew.perform (.remove route (some name))).run world).1.isOk)
    (switchesOn : ∀ route world, ((crew.perform (.enable route true)).run world).1.isOk) :
    Faithful (crew.noting crew.account isCancelled) Prod.snd where
  carriedOut command world told answer := by
    change ((crew.perform command).run world.1).1 = .ok told at answer
    change crew.account ⟨.command command, world.1⟩ world.2 = _
    rw [Crew.account]
    simp only [answer]
  failed command world error answer := by
    change ((crew.perform command).run world.1).1 = .error error at answer
    change crew.account ⟨.command command, world.1⟩ world.2 = _
    rw [Crew.account]
    simp only [answer]
  resets world := ne_error_of_isOk (resets world.1)
  removes route name _ world error _ := ne_error_of_isOk (removes route name world.1) error
  switchesOn route world error _ := ne_error_of_isOk (switchesOn route world.1) error
  measure _ _ _ := rfl
  now _ := rfl

def accountant (script : Script) : Crew (Stage × Finset Disturbance) :=
  script.crew.noting script.crew.account fun stage _ => stage.cancelled

theorem faithful_accountant {script : Script} (resets : script.failsToReset = false)
    (undoes : ∀ number, (script.scene number).failsToRemove = false ∧
      (script.scene number).failsToEnable = false) :
    Faithful (accountant script) Prod.snd := by
  refine faithful_accounting script.crew _ ?_ ?_ ?_
  · intro stage
    change (if script.failsToReset then _ else _ : Except _ _).isOk
    rw [resets]
    rfl
  · intro route name stage
    change (if (script.lastScene stage).failsToRemove then _ else _ : Except _ _).isOk
    rw [Script.lastScene, (undoes _).1]
    rfl
  · intro route stage
    change (if (script.lastScene stage).failsToEnable then _ else _ : Except _ _).isOk
    rw [Script.lastScene, (undoes _).2]
    rfl

/-- An injection fails, a load window breaks down, and the drill is cancelled while
the route is down. -/
def mishaps : Script where
  time := ⟨⟨2024, 1, 1⟩, 0, 0⟩
  scenes := [{}, { failsToInject := true }, { toxic := some "squeeze", panics := true },
    { cancels := true }]

def mishapDrill : Drill where
  route := {}
  patience := .ofSeconds 30
  scenarios := [none, some (.latency 100 10), some (.bandwidth 64), some .disable, none].map
    fun fault =>
      { name := (fault.map Fault.label).getD "baseline", seconds := 1, rate := 10, fault }

/-- The mishaps disturb no other scenario, though a fault is armed in two turns. -/
theorem faults_isolated_mishaps :
    let crew := accountant mishaps
    let world : Stage × Finset Disturbance := ({}, {.down "redis_proxy"})
    let turns := mishapDrill.episodes crew world
    (crew.wait.run world).1 = .ready ∧ turns.length = 4 ∧
      turns.map (fun turn => ownFault crew mishapDrill.route.name turn.scenario.fault turn.start) =
        [∅, ∅, {.toxic "redis_proxy" "squeeze" (.bandwidth 64)},
          {.down "redis_proxy"}] ∧
      (∀ deed ∈ (mishapDrill.run crew world).2.deeds.tail, AtMostOne crew Prod.snd deed) ∧
      (∀ turn ∈ turns, MeasuresAlone mishapDrill.route.name crew Prod.snd turn) ∧
      (mishapDrill.run crew world).2.world.2 = ∅ := by
  intro crew world turns
  have undoes : ∀ number, (mishaps.scene number).failsToRemove = false ∧
      (mishaps.scene number).failsToEnable = false
    | 0 | 1 | 2 | 3 => ⟨rfl, rfl⟩
    | _ + 4 => ⟨rfl, rfl⟩
  have faithful : Faithful crew Prod.snd := faithful_accountant rfl undoes
  rcases faults_isolated faithful mishapDrill world rfl with ⟨_, _, atMostOne, alone, final⟩
  exact ⟨rfl, rfl, rfl, atMostOne, alone, final⟩

end Drill

end FaultDrill
