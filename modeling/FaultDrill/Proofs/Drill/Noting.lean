import FaultDrill.Proofs.Drill.Episode

/-!
Crews that keep notes beside their world. The notes are taken when something is
done; they may cancel the drill, but nobody answers differently because of them.
What such a crew does is therefore what it would do without the notes.
-/

namespace FaultDrill

variable {World Notes : Type}

/-- A crew that notes every deed. The notes decide whether it is cancelled. -/
def Crew.noting (crew : Crew World) (note : Deed World → Notes → Notes)
    (isCancelled : World → Notes → Bool) : Crew (World × Notes) where
  wait := fun (world, notes) =>
    let (readiness, world) := crew.wait world
    (readiness, world, notes)
  isCancelled := fun (world, notes) => isCancelled world notes
  perform command := fun (world, notes) =>
    let (answer, after) := crew.perform command world
    (answer, after, note ⟨.command command, world⟩ notes)
  tells_toxic route fault := fun (world, _) => crew.tells_toxic route fault world
  measure length rate := fun (world, notes) =>
    let (stats, after) := crew.measure length rate world
    (stats, after, note ⟨.measure length rate, world⟩ notes)
  now := fun (world, notes) =>
    let (time, world) := crew.now world
    (time, world, notes)

def notesAfter (note : Deed World → Notes → Notes) (notes : Notes) (deeds : List (Deed World)) :
    Notes :=
  deeds.foldl (fun notes deed => note deed notes) notes

theorem notesAfter_append_cons (note : Deed World → Notes → Notes) (notes : Notes)
    (earlier : List (Deed World)) (deed : Deed World) (later : List (Deed World)) :
    notesAfter note notes (earlier ++ deed :: later) =
      notesAfter note (note deed (notesAfter note notes earlier)) later :=
  List.foldl_append

/-- A deed without the notes taken of it. -/
def Deed.plain (deed : Deed (World × Notes)) : Deed World := ⟨deed.action, deed.world.1⟩

namespace Drill

variable (crew : Crew World) (note : Deed World → Notes → Notes)
  (isCancelled : World → Notes → Bool) (route : String)

theorem arm_noting (fault : Option Fault) (world : World) (notes : Notes) :
    let noted := (arm (crew.noting note isCancelled) route fault).run { world := (world, notes) }
    let plain := (arm crew route fault).run { world }
    noted.1 = plain.1 ∧ noted.2.deeds.map Deed.plain = plain.2.deeds ∧
      noted.2.world = (plain.2.world, notesAfter note notes plain.2.deeds) := by
  intro noted plain
  cases fault with
  | none => exact ⟨rfl, rfl, rfl⟩
  | some fault =>
      by_cases isToxic : fault = .disable
      · subst isToxic
        simp only [noted, plain, arm_disable]
        exact ⟨rfl, rfl, rfl⟩
      · simp only [noted, plain, arm_toxic _ route isToxic]
        exact ⟨rfl, rfl, rfl⟩

theorem release_noting (armed : Armed) (world : World) (notes : Notes) :
    let noted := (release (crew.noting note isCancelled) route armed).run
      { world := (world, notes) }
    let plain := (release crew route armed).run { world }
    noted.2.deeds.map Deed.plain = plain.2.deeds ∧
      noted.2.world = (plain.2.world, notesAfter note notes plain.2.deeds) := by
  cases armed <;> exact ⟨rfl, rfl⟩

/-- A turn is the same with and without notes, and the notes are what its deeds leave. -/
theorem episode_noting (scenario : Scenario) (world : World) (notes : Notes) :
    let noted := episode (crew.noting note isCancelled) route scenario (world, notes)
    let plain := episode crew route scenario world
    noted.result = plain.result ∧ noted.deeds.map Deed.plain = plain.deeds ∧
      noted.finish = (plain.finish, notesAfter note notes plain.deeds) := by
  intro noted plain
  rcases arm_noting crew note isCancelled route scenario.fault world notes with
    ⟨armed, opening, opened⟩
  have releasing := release_noting crew note isCancelled route plain.armed
    (crew.now.run (((crew.measure scenario.duration scenario.rate).run plain.window.world).2)).2
    (note plain.window (notesAfter note notes plain.opening))
  rcases releasing with ⟨closing, finished⟩
  refine ⟨?_, ?_, ?_⟩
  · simp only [noted, plain, Episode.result, episode, opened]
    rfl
  · simp only [noted, plain, Episode.deeds, episode, opened, armed, List.map_append,
      List.map_cons, opening]
    exact congrArg _ (congrArg _ closing)
  · rw [Episode.deeds, notesAfter_append_cons]
    simp only [noted, episode, opened, armed]
    exact finished

end Drill

end FaultDrill
