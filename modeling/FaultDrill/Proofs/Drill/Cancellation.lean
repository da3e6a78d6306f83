import FaultDrill.Proofs.Drill.Noting

/-!
A drill that is cancelled stops between two turns. Its journal is the shortest
part of the journal of the drill that nobody cancels which contains the deed it was
cancelled before and ends where a turn may begin.
-/

namespace FaultDrill

variable {World : Type}

def Crew.untroubled (crew : Crew World) : Crew World :=
  { crew with isCancelled := fun _ => false }

/-- The crew of a drill that is cancelled just before the deed of a number is begun,
counted from zero. The deeds begun so far are counted. -/
def Crew.cancelledBefore (crew : Crew World) (number : Nat) : Crew (World × Nat) :=
  crew.noting (fun _ begun => begun + 1) fun _ begun => number < begun

namespace Drill

variable (crew : Crew World) (route : String) (number : Nat)

/-- The part of a journal up to where the turn behind some others may begin. -/
def boundary (drill : Drill) (world : World) (turns : Nat) : List (Deed World) :=
  drill.preparation crew world ++
    ((drill.episodes crew world).take turns).flatMap Episode.deeds

theorem notesAfter_count (begun : Nat) (deeds : List (Deed World)) :
    notesAfter (fun _ begun => begun + 1) begun deeds = begun + deeds.length := by
  induction deeds generalizing begun with
  | nil => rfl
  | cons deed rest induction =>
      refine (induction (begun + 1)).trans ?_
      simp only [List.length_cons]
      omega

theorem episode_cancelledBefore (scenario : Scenario) (world : World) (begun : Nat) :
    let cut := episode (crew.cancelledBefore number) route scenario (world, begun)
    let turn := episode crew.untroubled route scenario world
    cut.result = turn.result ∧ cut.deeds.map Deed.plain = turn.deeds ∧
      cut.finish = (turn.finish, begun + turn.deeds.length) := by
  rcases episode_noting crew (fun _ begun => begun + 1) (fun _ begun => number < begun) route
      scenario world begun with ⟨result, deeds, finish⟩
  exact ⟨result, deeds, finish.trans (by rw [notesAfter_count]; rfl)⟩

/-- The turns of a drill that is cancelled are the first turns of the drill that
nobody cancels, up to the first that contains the deed it was cancelled before. -/
theorem episodesOf_cancelledBefore (scenarios : List Scenario) (world : World) (begun : Nat) :
    let turns := episodesOf crew.untroubled route scenarios world
    let cut := episodesOf (crew.cancelledBefore number) route scenarios (world, begun)
    ∃ kept ≤ turns.length,
      cut.map Episode.result = (turns.take kept).map Episode.result ∧
      (cut.flatMap Episode.deeds).map Deed.plain = (turns.take kept).flatMap Episode.deeds ∧
      (worldAfter (world, begun) cut).2 =
        begun + ((turns.take kept).flatMap Episode.deeds).length ∧
      (number < begun + ((turns.take kept).flatMap Episode.deeds).length ∨
        kept = turns.length) ∧
      ∀ fewer < kept, begun + ((turns.take fewer).flatMap Episode.deeds).length ≤ number := by
  -- The number of deeds begun goes along with the world: it says whether a turn begins.
  induction scenarios generalizing world begun with
  | nil => exact ⟨0, by simp [episodesOf, worldAfter]⟩
  | cons scenario rest induction =>
      intro turns cut
      by_cases cancelled : number < begun
      · refine ⟨0, Nat.zero_le _, ?_⟩
        have none : cut = [] := by
          simp [cut, episodesOf, Crew.cancelledBefore, Crew.noting, cancelled]
        simp [none, worldAfter, cancelled]
      · rcases episode_cancelledBefore crew route number scenario world begun with
          ⟨result, deeds, finish⟩
        let first := episode crew.untroubled route scenario world
        rcases induction first.finish (begun + first.deeds.length) with
          ⟨kept, within, results, journal, count, stops, shortest⟩
        have turnsEqual : turns = first :: episodesOf crew.untroubled route rest first.finish := rfl
        have cutEqual : cut =
            episode (crew.cancelledBefore number) route scenario (world, begun) ::
              episodesOf (crew.cancelledBefore number) route rest
                (first.finish, begun + first.deeds.length) := by
          have goesOn : (crew.cancelledBefore number).isCancelled (world, begun) = false :=
            decide_eq_false cancelled
          simp only [cut, episodesOf, goesOn, finish, Bool.false_eq_true, if_false]
          rfl
        rw [turnsEqual, cutEqual]
        refine ⟨kept + 1, Nat.succ_le_succ within, ?_, ?_, ?_, ?_, ?_⟩
        · rw [List.take_succ_cons, List.map_cons, List.map_cons, result, results]
        · rw [List.take_succ_cons, List.flatMap_cons, List.flatMap_cons, List.map_append, deeds,
            journal]
        · rw [worldAfter, List.foldl_cons, finish]
          simpa [worldAfter, Nat.add_assoc] using count
        · simpa [Nat.add_assoc] using stops
        · intro fewer less
          cases fewer with
          | zero => simpa using cancelled
          | succ fewer =>
              simpa [Nat.add_assoc] using shortest fewer (Nat.lt_of_succ_lt_succ less)

theorem episodesOf_untroubled (scenarios : List Scenario) (world : World) :
    (episodesOf crew.untroubled route scenarios world).length = scenarios.length := by
  induction scenarios generalizing world with
  | nil => rfl
  | cons scenario rest induction => exact congrArg Nat.succ (induction _)

theorem boundary_length (drill : Drill) (world : World) (turns : Nat) :
    (drill.boundary crew world turns).length =
      2 + (((drill.episodes crew world).take turns).flatMap Episode.deeds).length :=
  List.length_append

theorem boundary_extends (drill : Drill) (world : World) {turns more : Nat} (le : turns ≤ more) :
    drill.boundary crew world turns <+: drill.boundary crew world more := by
  have taken := List.take_prefix turns ((drill.episodes crew world).take more)
  rw [List.take_take, Nat.min_eq_left le] at taken
  rcases taken with ⟨rest, split⟩
  refine ⟨rest.flatMap Episode.deeds, ?_⟩
  rw [boundary, boundary, ← split, List.flatMap_append, List.append_assoc]

theorem deeds_of_untroubled (drill : Drill) {world : World}
    (ready : (crew.wait.run world).1 = .ready) :
    (drill.run crew.untroubled world).2.deeds =
      drill.boundary crew.untroubled world drill.scenarios.length := by
  have turns := episodesOf_untroubled crew drill.route.name drill.scenarios
    (drill.prepared crew.untroubled world)
  rw [deeds_of_ready crew.untroubled drill ready, boundary, episodes,
    List.take_of_length_le (Nat.le_of_eq turns)]

/-- Cancelling a drill cuts it short where a turn may begin and nowhere else. What
remains of the journal is the shortest such part that contains the deed before
which the drill was cancelled, or all of it if there is no such deed. The results
are those of the turns that remain. -/
theorem cancelled_at_boundary (drill : Drill) (world : World) :
    let whole := drill.run crew.untroubled world
    let cut := drill.run (crew.cancelledBefore number) (world, 0)
    let boundary := drill.boundary crew.untroubled world
    match (crew.wait.run world).1 with
    | .ready =>
        ∃ results, ∃ kept ≤ drill.scenarios.length,
          whole.1 = .ok { results, interrupted := false } ∧
          results.length = drill.scenarios.length ∧
          whole.2.deeds = boundary drill.scenarios.length ∧
          cut.1 = .ok
            { results := results.take kept, interrupted := number < cut.2.journal.length } ∧
          cut.2.journal = (boundary kept).map Deed.action ∧
          cut.2.journal <+: whole.2.journal ∧
          (number < (boundary kept).length ∨ kept = drill.scenarios.length) ∧
          (∀ fewer < kept, (boundary fewer).length ≤ number) ∧
          (kept < drill.scenarios.length → number < cut.2.journal.length)
    | _ => cut.1 = whole.1 ∧ cut.2.journal = [] ∧ whole.2.journal = [] := by
  intro whole cut boundary
  have waits : ((crew.cancelledBefore number).wait.run (world, 0)).1 =
      (crew.wait.run world).1 := rfl
  cases readiness : (crew.wait.run world).1 with
  | timedOut =>
      have wholeEqual := run_of_timedOut crew.untroubled drill readiness
      have cutEqual := run_of_timedOut (crew.cancelledBefore number) drill (waits.trans readiness)
      simp only [whole, cut, wholeEqual, cutEqual]
      exact ⟨trivial, rfl, rfl⟩
  | cancelled =>
      have wholeEqual := run_of_cancelled crew.untroubled drill readiness
      have cutEqual := run_of_cancelled (crew.cancelledBefore number) drill (waits.trans readiness)
      simp only [whole, cut, wholeEqual, cutEqual]
      exact ⟨trivial, rfl, rfl⟩
  | ready =>
      have prefixes := episodesOf_cancelledBefore crew drill.route.name number drill.scenarios
        (drill.prepared crew.untroubled world) 2
      rcases prefixes with ⟨kept, within, results, deeds, count, stops, shortest⟩
      rw [episodesOf_untroubled] at within stops
      have wholeEqual := run_of_ready crew.untroubled drill readiness
      have cutEqual := run_of_ready (crew.cancelledBefore number) drill (waits.trans readiness)
      have plain : cut.2.deeds.map Deed.plain = boundary kept := by
        rw [deeds_of_ready (crew.cancelledBefore number) drill (waits.trans readiness),
          List.map_append]
        exact congrArg (drill.preparation crew.untroubled world ++ ·) deeds
      have journal : cut.2.journal = (boundary kept).map Deed.action := by
        rw [← plain, List.map_map]
        rfl
      have length : cut.2.journal.length = (boundary kept).length := by
        rw [journal, List.length_map]
      have interrupted : (crew.cancelledBefore number).isCancelled
          (drill.finish (crew.cancelledBefore number) (world, 0)) =
            decide (number < cut.2.journal.length) := by
        rw [length, boundary_length]
        exact congrArg (fun begun => decide (number < begun)) count
      have wholeDeeds := deeds_of_untroubled crew drill readiness
      refine ⟨_, kept, within, congrArg Prod.fst wholeEqual, ?_, wholeDeeds, ?_, journal,
        ?_, ?_, ?_, ?_⟩
      · rw [List.length_map]
        exact episodesOf_untroubled crew drill.route.name drill.scenarios _
      · have results :
            (drill.episodes (crew.cancelledBefore number) (world, 0)).map Episode.result =
              ((drill.episodes crew.untroubled world).take kept).map Episode.result := results
        rw [← interrupted, ← List.map_take, ← results]
        exact congrArg Prod.fst cutEqual
      · rw [journal, Progress.journal, wholeDeeds]
        exact (boundary_extends crew.untroubled drill world within).map Deed.action
      · rw [boundary_length]
        exact stops
      · intro fewer less
        rw [boundary_length]
        exact shortest fewer less
      · intro less
        rw [length, boundary_length]
        exact stops.resolve_right (by omega)

end Drill

end FaultDrill
