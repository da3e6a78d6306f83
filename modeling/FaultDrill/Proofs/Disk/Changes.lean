import FaultDrill.Proofs.Disk.Places

/-!
What a disk keeps. Folders that are made take nothing away, whether or not all of them
can be made, and a file that is written changes what is at its own place only.
-/

namespace FaultDrill.Disk

variable {disk before middle after : Disk} {place other : Place} {path content : String}

/-! ## Folders that stay -/

structure KeepsFolders (before after : Disk) : Prop where
  home : after.home = before.home
  folders : ∀ place, before.entry? place = some .folder → after.entry? place = some .folder

namespace KeepsFolders

theorem step (keeps : KeepsFolders before after) {name : String}
    (stepped : before.step place name = .ok other) : after.step place name = .ok other := by
  rw [Disk.step] at stepped ⊢
  cases here : before.entry? place with
  | none => simp [here] at stepped
  | some entry =>
      cases entry with
      | file _ => simp [here] at stepped
      | folder =>
          rw [here] at stepped
          rw [keeps.folders place here]
          exact stepped

theorem walk (keeps : KeepsFolders before after) (names : List String)
    (walked : names.foldlM before.step place = .ok other) :
    names.foldlM after.step place = .ok other := by
  induction names generalizing place with
  | nil => exact walked
  | cons name rest induction =>
      rw [List.foldlM_cons] at walked ⊢
      obtain ⟨next, stepped, walked⟩ := bind_eq_ok.mp walked
      exact bind_eq_ok.mpr ⟨next, keeps.step stepped, induction walked⟩

theorem follow (keeps : KeepsFolders before after) (followed : before.follow path = .ok place) :
    after.follow path = .ok place := by
  have start : after.origin path = before.origin path := by rw [origin, origin, keeps.home]
  rw [Disk.follow, start]
  exact keeps.walk _ followed

theorem locate (keeps : KeepsFolders before after) (located : before.locate path = .ok place) :
    after.locate path = .ok place := by
  obtain ⟨passed, followed⟩ := locate_eq_ok.mp located
  exact locate_eq_ok.mpr ⟨passed, keeps.follow followed⟩

end KeepsFolders

/-! ## Folders that are made -/

/-- What was there is there as before, and all else that is there is a folder. -/
structure MakesFolders (before after : Disk) : Prop where
  home : after.home = before.home
  entries : ∀ place, after.entry? place = before.entry? place ∨
    before.entry? place = none ∧ after.entry? place = some .folder

namespace MakesFolders

theorem refl (disk : Disk) : MakesFolders disk disk := ⟨rfl, fun _ => .inl rfl⟩

theorem entry (makes : MakesFolders before after) {entry : Entry}
    (present : before.entry? place = some entry) : after.entry? place = some entry := by
  rcases makes.entries place with same | ⟨absent, _⟩
  · exact same.trans present
  · rw [present] at absent
    cases absent

theorem keepsFolders (makes : MakesFolders before after) : KeepsFolders before after :=
  ⟨makes.home, fun _ => makes.entry⟩

theorem trans (first : MakesFolders before middle) (second : MakesFolders middle after) :
    MakesFolders before after := by
  refine ⟨second.home.trans first.home, fun place => ?_⟩
  rcases second.entries place with same | ⟨absent, made⟩
  · rw [same]
    exact first.entries place
  · rcases first.entries place with same | ⟨_, there⟩
    · exact .inr ⟨same.symm.trans absent, made⟩
    · rw [there] at absent
      cases absent

theorem find (makes : MakesFolders before after) {entry : Entry}
    (found : before.find path = .ok entry) : after.find path = .ok entry := by
  obtain ⟨place, located, present, reached⟩ := find_eq_ok.mp found
  exact find_eq_ok.mpr
    ⟨place, makes.keepsFolders.locate located, makes.entry present, reached⟩

theorem put (absent : disk.entry? place = none) : MakesFolders disk (disk.put place .folder) := by
  refine ⟨rfl, fun other => ?_⟩
  by_cases same : other = place
  · subst same
    have inner : other ≠ [] := by
      rintro rfl
      cases absent
    exact .inr ⟨absent, entry_put_self inner .folder⟩
  · exact .inl (entry_put_of_ne same .folder)

theorem createFolder (made : disk.createFolder path = .ok after) : MakesFolders disk after := by
  obtain ⟨place, _, made⟩ := bind_eq_ok.mp made
  obtain ⟨absent, made⟩ := guard_eq_ok.mp made
  cases made
  exact put (by simpa using absent)

theorem createIfAbsent (made : disk.createIfAbsent path = .ok after) : MakesFolders disk after := by
  rw [Disk.createIfAbsent] at made
  split at made
  · rename_i there created
    cases made
    exact createFolder created
  · split at made
    · cases made
      exact refl disk
    · cases made

theorem single (path : String) (disk : Disk) :
    MakesFolders disk (left (Change.single (·.createIfAbsent path) disk)) := by
  rw [Change.single]
  cases made : disk.createIfAbsent path with
  | ok after => exact createIfAbsent made
  | error error => exact refl disk

theorem createOuterFirst (fuel : Nat) (path : String) (disk : Disk) :
    MakesFolders disk (left (Disk.createOuterFirst fuel path disk)) := by
  induction fuel generalizing path disk with
  | zero => exact refl disk
  | succ fuel induction =>
      rw [Disk.createOuterFirst]
      split
      · exact refl disk
      · dsimp only
        split
        · exact left_bind _ (induction _ disk) fun _ _ _ outer => outer.trans (single path _)
        · rename_i made
          exact createIfAbsent made
        · exact refl disk

theorem createFolders (path : String) (disk : Disk) :
    MakesFolders disk (left (Disk.createFolders path disk)) := createOuterFirst _ path disk

end MakesFolders

theorem found_of_isFolder (isFolder : disk.isFolder path = true) :
    disk.find path = .ok .folder := by
  rw [Disk.isFolder] at isFolder
  split at isFolder
  · assumption
  · cases isFolder

/-- Nothing is made where there is a folder. -/
theorem createFolders_of_isFolder (isFolder : disk.isFolder path = true) :
    createFolders path disk = .ok () disk := by
  obtain ⟨place, located, present, _⟩ := find_eq_ok.mp (found_of_isFolder isFolder)
  have refused : disk.createFolder path = .error .exists := by
    rw [createFolder, located]
    simp [bind, Except.bind, present, throw, throwThe, MonadExceptOf.throw]
  have kept : disk.createIfAbsent path = .ok disk := by
    rw [createIfAbsent, refused]
    simp [isFolder]
  rw [createFolders, createOuterFirst]
  split
  · rfl
  · simp only [kept]

/-! ## Files that are written -/

theorem fileToWrite_eq_ok :
    disk.fileToWrite path = .ok place ↔
      disk.locate path = .ok place ∧ disk.entry? place ≠ some .folder ∧
        endsInSlash path = false := by
  rw [fileToWrite, bind_eq_ok]
  constructor
  · rintro ⟨there, located, settled⟩
    rcases present : disk.entry? there with _ | _ | text <;> rw [present] at settled
    · obtain ⟨single, rfl⟩ := return_eq_ok.mp settled
      exact ⟨located, by simp [present], by simpa using single⟩
    · cases settled
    · obtain ⟨single, rfl⟩ := return_eq_ok.mp settled
      exact ⟨located, by simp [present], by simpa using single⟩
  · rintro ⟨located, noFolder, single⟩
    refine ⟨place, located, ?_⟩
    rcases present : disk.entry? place with _ | _ | text
    · exact return_eq_ok.mpr ⟨by simp [single], rfl⟩
    · exact absurd present noFolder
    · exact return_eq_ok.mpr ⟨by simp [single], rfl⟩

theorem write_eq_ok :
    disk.write path content = .ok after ↔
      ∃ place, disk.fileToWrite path = .ok place ∧ disk.put place (.file content) = after := by
  rw [write, bind_eq_ok]
  exact exists_congr fun place => and_congr_right fun _ => by simp [pure, Except.pure]

theorem ne_root_of_ne_folder (differs : disk.entry? place ≠ some .folder) : place ≠ [] := by
  rintro rfl
  exact differs rfl

theorem KeepsFolders.write (written : disk.write path content = .ok after) :
    KeepsFolders disk after := by
  obtain ⟨place, settled, rfl⟩ := write_eq_ok.mp written
  obtain ⟨_, noFolder, _⟩ := fileToWrite_eq_ok.mp settled
  refine ⟨rfl, fun other isFolder => ?_⟩
  have differs : other ≠ place := by
    rintro rfl
    exact noFolder isFolder
  rw [entry_put_of_ne differs]
  exact isFolder

theorem find_of_write (written : disk.write path content = .ok after) :
    after.find path = .ok (.file content) := by
  have keeps := KeepsFolders.write written
  obtain ⟨place, settled, rfl⟩ := write_eq_ok.mp written
  obtain ⟨located, noFolder, single⟩ := fileToWrite_eq_ok.mp settled
  exact find_eq_ok.mpr
    ⟨place, keeps.locate located, entry_put_self (ne_root_of_ne_folder noFolder) _, .inr single⟩

/-- What is found elsewhere stays. -/
theorem find_of_write_elsewhere {elsewhere : String} {entry : Entry}
    (written : disk.write path content = .ok after) (found : disk.find elsewhere = .ok entry)
    (apart : disk.locate elsewhere ≠ disk.locate path) : after.find elsewhere = .ok entry := by
  have keeps := KeepsFolders.write written
  obtain ⟨place, settled, rfl⟩ := write_eq_ok.mp written
  obtain ⟨located, _, _⟩ := fileToWrite_eq_ok.mp settled
  obtain ⟨there, led, present, reached⟩ := find_eq_ok.mp found
  have differs : there ≠ place := by
    rintro rfl
    exact apart (led.trans located.symm)
  refine find_eq_ok.mpr ⟨there, keeps.locate led, ?_, reached⟩
  rw [entry_put_of_ne differs]
  exact present

/-- A write changes what is at one place. -/
theorem entry_of_write (written : disk.write path content = .ok after) :
    ∃ place, disk.locate path = .ok place ∧ after.entry? place = some (.file content) ∧
      ∀ other, other ≠ place → after.entry? other = disk.entry? other := by
  obtain ⟨place, settled, rfl⟩ := write_eq_ok.mp written
  obtain ⟨located, noFolder, _⟩ := fileToWrite_eq_ok.mp settled
  exact ⟨place, located, entry_put_self (ne_root_of_ne_folder noFolder) _,
    fun other differs => entry_put_of_ne differs _⟩

/-- A path that leads somewhere once a file is written has led there before. -/
theorem locate_of_write {elsewhere : String} (written : disk.write path content = .ok after)
    (located : after.locate elsewhere = .ok place) : disk.locate elsewhere = .ok place := by
  have keeps : KeepsFolders after disk := by
    obtain ⟨there, settled, rfl⟩ := write_eq_ok.mp written
    obtain ⟨_, noFolder, _⟩ := fileToWrite_eq_ok.mp settled
    refine ⟨rfl, fun other isFolder => ?_⟩
    by_cases same : other = there
    · subst same
      rw [entry_put_self (ne_root_of_ne_folder noFolder)] at isFolder
      cases isFolder
    · rwa [entry_put_of_ne same] at isFolder
  exact keeps.locate located

theorem append_eq_ok (appended : disk.append path content = .ok after) :
    ∃ place text, disk.fileToWrite path = .ok place ∧ disk.put place (.file text) = after := by
  obtain ⟨place, settled, appended⟩ := bind_eq_ok.mp appended
  rcases present : disk.entry? place with _ | _ | old <;> rw [present] at appended <;>
    cases appended
  · exact ⟨place, content, settled, rfl⟩
  · exact ⟨place, content, settled, rfl⟩
  · exact ⟨place, old ++ content, settled, rfl⟩

/-! ## Files that stay -/

/-- Files keep their contents, those in some places aside. -/
def KeepsFiles (spared : Place → Prop) (before after : Disk) : Prop :=
  ∀ place content, ¬ spared place → before.entry? place = some (.file content) →
    after.entry? place = some (.file content)

/-- A file was at a place, and it is not there as it was. -/
def Overwrites (before after : Disk) (place : Place) : Prop :=
  ∃ content, before.entry? place = some (.file content) ∧
    after.entry? place ≠ some (.file content)

namespace KeepsFiles

variable {spared : Place → Prop}

theorem spared_of_overwrites (keeps : KeepsFiles spared before after)
    (lost : Overwrites before after place) : spared place := by
  rcases lost with ⟨content, present, changed⟩
  apply Classical.byContradiction
  exact fun kept => changed (keeps place content kept present)

theorem trans (first : KeepsFiles spared before middle) (second : KeepsFiles spared middle after) :
    KeepsFiles spared before after := fun place content inside present =>
  second place content inside (first place content inside present)

theorem ofMakesFolders (makes : MakesFolders before after) : KeepsFiles spared before after :=
  fun _ _ _ => makes.entry

theorem write (written : disk.write path content = .ok after)
    (isSpared : ∀ place, disk.locate path = .ok place → spared place) :
    KeepsFiles spared disk after := by
  obtain ⟨place, located, _, others⟩ := entry_of_write written
  intro other text kept present
  have differs : other ≠ place := by
    rintro rfl
    exact kept (isSpared other located)
  rw [others other differs]
  exact present

/-- Nothing is lost where nothing was found. -/
theorem write_free (free : disk.has? path = .ok false)
    (written : disk.write path content = .ok after) : KeepsFiles spared disk after := by
  obtain ⟨place, settled, _⟩ := write_eq_ok.mp written
  obtain ⟨located, _, single⟩ := fileToWrite_eq_ok.mp settled
  obtain ⟨there, led, _, others⟩ := entry_of_write written
  cases located.symm.trans led
  intro other text _ present
  have differs : other ≠ place := by
    rintro rfl
    have found := find_eq_ok.mpr ⟨other, located, present, .inr single⟩
    rw [has?_eq_false.mp free] at found
    cases found
  rw [others other differs]
  exact present

end KeepsFiles

/-! ## One file that is written -/

/-- Some folders may be new, and a file may have been written at one spot; all else is as
it was. -/
structure KeepsBut (spot : Option Place) (before after : Disk) : Prop where
  home : after.home = before.home
  entries : ∀ place, after.entry? place = before.entry? place ∨
    (before.entry? place = none ∧ after.entry? place = some .folder) ∨
    (spot = some place ∧ before.entry? place ≠ some .folder ∧
      ∃ text, after.entry? place = some (.file text))

namespace KeepsBut

variable {spot : Option Place}

theorem refl (disk : Disk) : KeepsBut spot disk disk := ⟨rfl, fun _ => .inl rfl⟩

theorem ofMakesFolders (makes : MakesFolders before after) : KeepsBut spot before after := by
  refine ⟨makes.home, fun place => ?_⟩
  rcases makes.entries place with same | made
  · exact .inl same
  · exact .inr (.inl made)

theorem keepsFolders (keeps : KeepsBut spot before after) : KeepsFolders before after := by
  refine ⟨keeps.home, fun place isFolder => ?_⟩
  rcases keeps.entries place with same | ⟨absent, _⟩ | ⟨_, noFolder, _⟩
  · exact same.trans isFolder
  · rw [isFolder] at absent
    cases absent
  · exact absurd isFolder noFolder

theorem trans (first : KeepsBut spot before middle) (second : KeepsBut spot middle after) :
    KeepsBut spot before after := by
  refine ⟨second.home.trans first.home, fun place => ?_⟩
  rcases second.entries place with same | ⟨absent, made⟩ | ⟨here, noFolder, written⟩
  · rw [same]
    exact first.entries place
  · rcases first.entries place with same | ⟨_, there⟩ | ⟨_, _, _, there⟩
    · exact .inr (.inl ⟨same.symm.trans absent, made⟩)
    · rw [there] at absent
      cases absent
    · rw [there] at absent
      cases absent
  · rcases first.entries place with same | ⟨_, there⟩ | ⟨_, noFolderBefore, _⟩
    · exact .inr (.inr ⟨here, same ▸ noFolder, written⟩)
    · exact absurd there noFolder
    · exact .inr (.inr ⟨here, noFolderBefore, written⟩)

theorem put (noFolder : disk.entry? place ≠ some .folder) (text : String) :
    KeepsBut (some place) disk (disk.put place (.file text)) := by
  refine ⟨rfl, fun other => ?_⟩
  by_cases same : other = place
  · subst same
    exact .inr (.inr ⟨rfl, noFolder, text, entry_put_self (ne_root_of_ne_folder noFolder) _⟩)
  · exact .inl (entry_put_of_ne same _)

theorem append (appended : disk.append path content = .ok after) :
    ∃ place, disk.locate path = .ok place ∧ KeepsBut (some place) disk after := by
  obtain ⟨place, text, settled, rfl⟩ := append_eq_ok appended
  obtain ⟨located, noFolder, _⟩ := fileToWrite_eq_ok.mp settled
  exact ⟨place, located, put noFolder text⟩

/-- What is there stays there, though its content may change. -/
theorem has (keeps : KeepsBut spot before after) (present : before.has path = true) :
    after.has path = true := by
  obtain ⟨entry, found⟩ := has_iff.mp present
  obtain ⟨place, located, here, reached⟩ := find_eq_ok.mp found
  have led := keeps.keepsFolders.locate located
  rcases keeps.entries place with same | ⟨absent, _⟩ | ⟨_, noFolder, text, there⟩
  · exact has_iff.mpr ⟨entry, find_eq_ok.mpr ⟨place, led, same.trans here, reached⟩⟩
  · rw [here] at absent
    cases absent
  · have isFile : entry ≠ .folder := fun same => noFolder (same ▸ here)
    have single := reached.resolve_left isFile
    exact has_iff.mpr ⟨_, find_eq_ok.mpr ⟨place, led, there, .inr single⟩⟩

end KeepsBut

end FaultDrill.Disk
