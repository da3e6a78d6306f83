import FaultDrill.Log.Book
import FaultDrill.Proofs.Disk.Changes

/-!
What a log leaves on the disk: its own file, and the folders that lead to it.
-/

namespace FaultDrill.Log.Book

open Disk

variable {path name : String} {disk after : Disk} {error : OpenError}

/-! ## Opening -/

/-- Where the file of a log lies. -/
def folderOf (path : String) : String :=
  let outer := (outerPath path).getD ""
  if outer.isEmpty then "." else outer

theorem openFile_eq (path : String) (disk : Disk) :
    openFile path disk =
      match lastName path with
      | none => .error (.noFileName path) disk
      | some name =>
          match createFolders (folderOf path) disk with
          | .error _ disk => .error (.noFolder (folderOf path)) disk
          | .ok _ disk =>
              match disk.append (join (folderOf path) name) "" with
              | .error _ => .error .noFile disk
              | .ok disk => .ok (join (folderOf path) name) disk := by
  rw [openFile]
  cases lastName path with
  | none => rfl
  | some name =>
      change (match createFolders (folderOf path) disk with
        | .error _ disk => (do
            set disk
            throw (OpenError.noFolder (folderOf path)) : EStateM OpenError Disk String)
        | .ok _ disk => (do
            set disk
            match disk.append (join (folderOf path) name) "" with
            | .error _ => throw OpenError.noFile
            | .ok disk =>
                set disk
                return join (folderOf path) name)) disk = _
      rcases createFolders (folderOf path) disk with ⟨_, made⟩ | ⟨_, made⟩
      · change (match made.append (join (folderOf path) name) "" with
          | .error _ => (throw OpenError.noFile : EStateM OpenError Disk String)
          | .ok disk => (do
              set disk
              return join (folderOf path) name)) made = _
        dsimp only
        cases made.append (join (folderOf path) name) "" <;> rfl
      · rfl

theorem makesFolders_of_error (failed : openFile path disk = .error error after) :
    MakesFolders disk after := by
  have makes := MakesFolders.createFolders (folderOf path) disk
  rw [openFile_eq] at failed
  -- A path without a name, folders that cannot be made, or a file that cannot be opened.
  split at failed
  · cases failed
    exact MakesFolders.refl disk
  · split at failed
    · rename_i made
      cases failed
      rwa [made] at makes
    · rename_i made
      rw [made] at makes
      split at failed <;> cases failed
      exact makes

theorem keepsBut_of_openFile (opened : openFile path disk = .ok name after) :
    ∃ place, KeepsBut (some place) disk after ∧ after.locate name = .ok place := by
  have makes := MakesFolders.createFolders (folderOf path) disk
  rw [openFile_eq] at opened
  split at opened
  · cases opened
  · split at opened
    · cases opened
    · rename_i made
      rw [made] at makes
      split at opened
      · cases opened
      · rename_i appended
        cases opened
        obtain ⟨place, located, keeps⟩ := KeepsBut.append appended
        exact ⟨place, (KeepsBut.ofMakesFolders makes).trans keeps,
          keeps.keepsFolders.locate located⟩

/-! ## Keeping -/

/-- A log writes to one spot, or to none. -/
inductive IsKeptAt (disk : Disk) : Option String → Option Place → Prop
  | console : IsKeptAt disk none none
  | file {path place} : disk.locate path = .ok place → IsKeptAt disk (some path) (some place)

variable {logging : Logging} {level second : Option String} {book : Book} {spot : Option Place}

theorem IsKeptAt.later {kept : Option String} (isKept : IsKeptAt disk kept spot)
    (keeps : KeepsFolders disk after) : IsKeptAt after kept spot := by
  cases isKept with
  | console => exact .console
  | file located => exact .file (keeps.locate located)

theorem start_keeps (started : start logging level second disk = .ok book after) :
    ∃ spot, KeepsBut spot disk after ∧ IsKeptAt after book.path spot := by
  rw [start] at started
  cases target : logging.target with
  | console =>
      rw [target] at started
      cases started
      exact ⟨none, KeepsBut.refl disk, .console⟩
  | file path =>
      rw [target] at started
      obtain ⟨name, middle, opened, started⟩ := bind_eq_done.mp started
      cases started
      obtain ⟨place, keeps, located⟩ := keepsBut_of_openFile opened
      exact ⟨some place, keeps, .file located⟩

theorem makesFolders_of_start (failed : start logging level second disk = .error error after) :
    MakesFolders disk after := by
  rw [start] at failed
  cases target : logging.target with
  | console =>
      rw [target] at failed
      cases failed
  | file path =>
      rw [target] at failed
      rcases bind_eq_failed.mp failed with opening | ⟨_, _, _, failed⟩
      · exact makesFolders_of_error opening
      · cases failed

theorem write_keeps (time : Instant) (event : Event) (isKept : IsKeptAt disk book.path spot) :
    KeepsBut spot disk (book.write time disk event) := by
  rw [write]
  cases kept : book.path with
  | none => exact KeepsBut.refl disk
  | some path =>
      dsimp only
      split
      · split
        · rename_i appended
          obtain ⟨place, located, keeps⟩ := KeepsBut.append appended
          rw [kept] at isKept
          cases isKept with
          | file same =>
              rw [located] at same
              cases same
              exact keeps
        · exact KeepsBut.refl disk
      · exact KeepsBut.refl disk

theorem foldl_write_keeps (time : Instant) (events : List Event)
    (isKept : IsKeptAt disk book.path spot) :
    KeepsBut spot disk (events.foldl (book.write time) disk) := by
  induction events generalizing disk with
  | nil => exact KeepsBut.refl disk
  | cons event rest induction =>
      have keeps := write_keeps time event isKept
      exact keeps.trans (induction (isKept.later keeps.keepsFolders))

end FaultDrill.Log.Book
