import FaultDrill.Proofs.Disk.Changes
import FaultDrill.Proofs.Report.Naming

/-!
What is on the disk when a report has been written, or has not.
-/

namespace FaultDrill

open Disk

namespace Writing

variable {α : Type} {mishaps : Mishaps} {operation : Operation} {path content : String}
  {disk after : Disk} {act : Writing α} {value : α}

theorem left_change {change : Disk.Change} :
    left (Writing.change path operation change disk) = left (change disk) := by
  rw [Writing.change]
  cases change disk <;> rfl

theorem change_eq_done {change : Disk.Change}
    (done : Writing.change path operation change disk = .ok () after) :
    change disk = .ok () after := by
  rw [Writing.change] at done
  cases changed : change disk with
  | ok _ there =>
      rw [changed] at done
      cases done
      rfl
  | error error there =>
      rw [changed] at done
      cases done

theorem single_eq_done {act : Disk → Except FileError Disk}
    (done : Change.single act disk = .ok () after) : act disk = .ok after := by
  unfold Change.single at done
  cases acted : act disk with
  | ok there =>
      rw [acted] at done
      cases done
      rfl
  | error error =>
      rw [acted] at done
      cases done

theorem left_single (holds : Disk → Prop) {act : Disk → Except FileError Disk} (kept : holds disk)
    (acted : ∀ after, act disk = .ok after → holds after) :
    holds (left (Change.single act disk)) := by
  unfold Change.single
  cases done : act disk with
  | ok after => exact acted after done
  | error error => exact kept

/-! ## Operations that may be refused -/

section Refusals

variable {remains : String → Disk.Change}

theorem unlessRefused_of_some {mishap : Mishap} (refused : mishaps operation = some mishap) :
    unlessRefused mishaps path operation remains act =
      (match mishap.remnant with
        | some remnant => Writing.change path operation (remains remnant)
        | none => pure ()) >>= fun _ => throw ⟨path, operation.name, mishap.error⟩ := by
  obtain ⟨error, remnant⟩ := mishap
  rw [unlessRefused, refused]
  cases remnant <;> rfl

theorem unlessRefused_eq_done
    (done : unlessRefused mishaps path operation remains act disk = .ok value after) :
    act disk = .ok value after := by
  cases refused : mishaps operation with
  | none =>
      rw [unlessRefused, refused] at done
      exact done
  | some mishap =>
      rw [unlessRefused_of_some refused] at done
      obtain ⟨_, _, _, thrown⟩ := bind_eq_done.mp done
      cases thrown

theorem left_unlessRefused (holds : Disk → Prop) (kept : holds disk)
    (acted : holds (left (act disk)))
    (remained : ∀ remnant, holds (left (remains remnant disk))) :
    holds (left (unlessRefused mishaps path operation remains act disk)) := by
  cases refused : mishaps operation with
  | none =>
      rw [unlessRefused, refused]
      exact acted
  | some mishap =>
      rw [unlessRefused_of_some refused]
      refine left_bind _ ?_ fun _ _ _ kept => kept
      cases mishap.remnant with
      | none => exact kept
      | some remnant =>
          rw [left_change]
          exact remained remnant

end Refusals

/-! ## Folders -/

theorem createFolders_eq_done (done : Writing.createFolders mishaps path disk = .ok () after) :
    Disk.createFolders path disk = .ok () after := change_eq_done (unlessRefused_eq_done done)

theorem left_createFolders (mishaps : Mishaps) (path : String) (disk : Disk) :
    MakesFolders disk (left (Writing.createFolders mishaps path disk)) := by
  refine left_unlessRefused _ (MakesFolders.refl disk) ?_ fun remnant => ?_
  · rw [left_change]
    exact MakesFolders.createFolders path disk
  · exact MakesFolders.createFolders remnant disk

/-! ## Names that may be taken -/

theorem ask_of_ok {question : Disk → Except FileError α} (answered : question disk = .ok value) :
    ask path operation question disk = .ok value disk := by
  have got : (get : Writing Disk) disk = .ok disk disk := rfl
  rw [ask, bind_of_done got, answered]
  rfl

theorem ask_of_error {question : Disk → Except FileError α} {error : FileError}
    (refused : question disk = .error error) :
    ask path operation question disk = .error ⟨path, operation.name, error⟩ disk := by
  have got : (get : Writing Disk) disk = .ok disk disk := rfl
  rw [ask, bind_of_done got, refused]
  rfl

theorem isTaken_eq_done {number : Nat} {taken : Bool}
    (done : isTaken mishaps number path disk = .ok taken after) :
    after = disk ∧ disk.has? path = .ok taken := by
  have asked := unlessRefused_eq_done done
  cases answered : disk.has? path with
  | ok answer =>
      rw [ask_of_ok answered] at asked
      cases asked
      exact ⟨rfl, rfl⟩
  | error error =>
      rw [ask_of_error answered] at asked
      cases asked

theorem left_isTaken (mishaps : Mishaps) (number : Nat) (path : String) (disk : Disk) :
    left (isTaken mishaps number path disk) = disk := by
  refine left_unlessRefused (· = disk) rfl ?_ fun _ => rfl
  cases answered : disk.has? path with
  | ok answer => rw [ask_of_ok answered, left]
  | error error => rw [ask_of_error answered, left]

/-! ## Files -/

theorem writeFile_eq_done (done : writeFile mishaps operation path content disk = .ok () after) :
    disk.write path content = .ok after :=
  single_eq_done (change_eq_done (unlessRefused_eq_done done))

/-- A file that is written holds some text afterwards, unless nothing has changed. -/
theorem left_writeFile (holds : Disk → Prop) (kept : holds disk)
    (written : ∀ text after, disk.write path text = .ok after → holds after) :
    holds (left (writeFile mishaps operation path content disk)) := by
  have single (text : String) : holds (left (Change.single (·.write path text) disk)) :=
    left_single _ kept (written text)
  refine left_unlessRefused _ kept ?_ single
  rw [left_change]
  exact single content

end Writing

namespace Output

variable {output : Output} {mishaps : Mishaps} {report : Report} {stem chosen path : String}
  {disk prepared after : Disk}

/-! ## The search for a name -/

def isTaken (output : Output) (disk : Disk) (stem : String) (number : Nat) : Prop :=
  disk.has? (output.markdownPath (candidate stem number)) = .ok true

theorem left_freeStem (mishaps : Mishaps) (stem : String) (fuel number : Nat) (disk : Disk) :
    left (output.freeStem mishaps stem fuel number disk) = disk := by
  induction fuel generalizing number with
  | zero => rfl
  | succ fuel induction =>
      rw [freeStem]
      refine left_bind (· = disk) (Writing.left_isTaken ..) ?_
      rintro taken middle asked rfl
      cases taken with
      | false => rfl
      | true => exact induction (number + 1)

/-- A search ends at the first name that is free, unless it has run out of tries. -/
theorem freeStem_eq_done {fuel number : Nat}
    (done : output.freeStem mishaps stem fuel number disk = .ok chosen after) :
    after = disk ∧ ∃ tries ≤ fuel, chosen = candidate stem (number + tries) ∧
      (∀ earlier < tries, output.isTaken disk stem (number + earlier)) ∧
      (tries < fuel → disk.has? (output.markdownPath chosen) = .ok false) := by
  -- On the tries that are left; a name that is taken adds one to those of the rest.
  induction fuel generalizing number with
  | zero =>
      cases done
      exact ⟨rfl, 0, Nat.le_refl 0, rfl, nofun, nofun⟩
  | succ fuel induction =>
      rw [freeStem] at done
      obtain ⟨taken, middle, asked, done⟩ := bind_eq_done.mp done
      obtain ⟨rfl, answer⟩ := Writing.isTaken_eq_done asked
      cases taken with
      | false =>
          cases done
          exact ⟨rfl, 0, Nat.zero_le _, rfl, nofun, fun _ => answer⟩
      | true =>
          obtain ⟨kept, tries, bounded, named, taken, free⟩ := induction done
          refine ⟨kept, tries + 1, Nat.succ_le_succ bounded, ?_, ?_, ?_⟩
          · rw [named, Nat.add_right_comm, Nat.add_assoc]
          · intro earlier small
            cases earlier with
            | zero => exact answer
            | succ earlier =>
                rw [← Nat.add_assoc, Nat.add_right_comm]
                exact taken earlier (Nat.lt_of_succ_lt_succ small)
          · intro small
            exact free (Nat.lt_of_succ_lt_succ small)

/-- Not all names that are tried are taken, wherever a prefix leads them. -/
theorem not_all_taken (stem : String) (disk : Disk) :
    ¬ ∀ number < disk.entries.length + 1, output.isTaken disk stem number := by
  intro taken
  obtain ⟨outer, name, rfl, single, inner⟩ := exists_last_name stem
  have areNames (number : Nat) : IsName (candidate name number ++ ".md") :=
    isName_markdown (candidate_single single number)
  have distinct : Function.Injective fun number => candidate name number ++ ".md" :=
    (append_right_injective ".md").comp (candidate_injective name)
  have paths : ∃ folder, ∀ number, output.markdownPath (candidate (outer ++ name) number) =
      join folder (candidate name number ++ ".md") := by
    rcases inner with rfl | slash
    · exact ⟨output.directory, fun number => by rw [String.empty_append, markdownPath]⟩
    · refine ⟨join output.directory outer, fun number => ?_⟩
      rw [markdownPath, candidate_append, String.append_assoc,
        join_append slash (head?_ne_slash (areNames number))]
  obtain ⟨folder, paths⟩ := paths
  have found : ∀ number ≤ disk.entries.length,
      ∃ entry, disk.find (join folder (candidate name number ++ ".md")) = .ok entry := by
    intro number small
    rw [← paths]
    exact has?_eq_true.mp (taken number (Nat.lt_succ_of_le small))
  exact not_all_found areNames distinct found

/-- The first name that is free, and it is found. -/
theorem freeStem_first
    (done : output.freeStem mishaps stem (disk.entries.length + 1) 0 disk = .ok chosen after) :
    after = disk ∧ ∃ number, chosen = candidate stem number ∧
      (∀ smaller < number, output.isTaken disk stem smaller) ∧
      disk.has? (output.markdownPath chosen) = .ok false := by
  obtain ⟨kept, tries, bounded, named, taken, free⟩ := freeStem_eq_done done
  simp only [Nat.zero_add] at named taken
  refine ⟨kept, tries, named, taken, free ?_⟩
  refine Nat.lt_of_le_of_ne bounded ?_
  rintro rfl
  exact not_all_taken stem disk taken

theorem freeStem_of_not_all_taken {fuel number : Nat} (more : Nat)
    (free : ¬ ∀ tries < fuel, output.isTaken disk stem (number + tries)) :
    output.freeStem mishaps stem (fuel + more) number disk =
      output.freeStem mishaps stem fuel number disk := by
  induction fuel generalizing number with
  | zero => exact absurd nofun free
  | succ fuel induction =>
      rw [Nat.add_right_comm, freeStem, freeStem]
      refine bind_eq_bind fun taken middle asked => ?_
      obtain ⟨rfl, answer⟩ := Writing.isTaken_eq_done asked
      cases taken with
      | false => rfl
      | true =>
          refine induction fun others => free fun tries small => ?_
          cases tries with
          | zero => exact answer
          | succ tries =>
              rw [← Nat.add_assoc, Nat.add_right_comm]
              exact others tries (Nat.lt_of_succ_lt_succ small)

/-- A search without a limit ends where this one does. -/
theorem freeStem_more (mishaps : Mishaps) (stem : String) (disk : Disk) (more : Nat) :
    output.freeStem mishaps stem (disk.entries.length + 1 + more) 0 disk =
      output.freeStem mishaps stem (disk.entries.length + 1) 0 disk := by
  refine freeStem_of_not_all_taken more fun taken => ?_
  simp only [Nat.zero_add] at taken
  exact not_all_taken stem disk taken

/-! ## Reports that are there -/

/-- A report is on the disk under a name. -/
structure Holds (output : Output) (disk : Disk) (stem : String) (report : Report) : Prop where
  markdown : disk.read (output.markdownPath stem) = .ok report.toMarkdown
  json : output.writeJson = true → disk.read (output.jsonPath stem) = .ok report.toJson

namespace Holds

theorem ne_of_free (holds : output.Holds disk stem report)
    (free : disk.has? (output.markdownPath chosen) = .ok false) : stem ≠ chosen := by
  rintro rfl
  have found := read_eq_ok.mp holds.markdown
  rw [has?_eq_false.mp free] at found
  cases found

theorem makesFolders (makes : MakesFolders disk after) (holds : output.Holds disk stem report) :
    output.Holds after stem report where
  markdown := read_eq_ok.mpr (makes.find (read_eq_ok.mp holds.markdown))
  json wanted := read_eq_ok.mpr (makes.find (read_eq_ok.mp (holds.json wanted)))

/-- Files of other names can be written. -/
theorem write {name text : String} (isStem : IsOneName stem) (isName : IsName name)
    (notMarkdown : stem ++ ".md" ≠ name) (notJson : stem ++ ".json" ≠ name)
    (written : disk.write (join output.directory name) text = .ok after)
    (holds : output.Holds disk stem report) : output.Holds after stem report := by
  constructor
  · have found := read_eq_ok.mp holds.markdown
    have apart := locate_ne_of_found isStem.markdown isName notMarkdown found
    exact read_eq_ok.mpr (find_of_write_elsewhere written found apart)
  · intro wanted
    have found := read_eq_ok.mp (holds.json wanted)
    have apart := locate_ne_of_found isStem.json isName notJson found
    exact read_eq_ok.mpr (find_of_write_elsewhere written found apart)

theorem writeMarkdown {text : String} (isStem : IsOneName stem) (isChosen : IsOneName chosen)
    (differs : stem ≠ chosen) (written : disk.write (output.markdownPath chosen) text = .ok after)
    (holds : output.Holds disk stem report) : output.Holds after stem report := by
  refine holds.write isStem isChosen.markdown ?_ (markdown_ne_json _ _).symm written
  exact fun same => differs (append_right_injective ".md" same)

theorem writeJson {text : String} (isStem : IsOneName stem) (isChosen : IsOneName chosen)
    (differs : stem ≠ chosen) (written : disk.write (output.jsonPath chosen) text = .ok after)
    (holds : output.Holds disk stem report) : output.Holds after stem report := by
  refine holds.write isStem isChosen.json (markdown_ne_json _ _) ?_ written
  exact fun same => differs (append_right_injective ".json" same)

theorem of_both {marked : Disk} (isStem : IsOneName stem)
    (written : disk.write (output.markdownPath stem) report.toMarkdown = .ok marked)
    (also : marked.write (output.jsonPath stem) report.toJson = .ok after) :
    output.Holds after stem report := by
  have found := find_of_write written
  have apart := locate_ne_of_found isStem.markdown isStem.json (markdown_ne_json _ _) found
  exact
    { markdown := read_eq_ok.mpr (find_of_write_elsewhere also found apart)
      json := fun _ => read_eq_ok.mpr (find_of_write also) }

theorem of_markdown (unwanted : output.writeJson = false)
    (written : disk.write (output.markdownPath stem) report.toMarkdown = .ok after) :
    output.Holds after stem report where
  markdown := read_eq_ok.mpr (find_of_write written)
  json wanted := by
    rw [unwanted] at wanted
    cases wanted

end Holds

/-! ## A report that is written -/

/-- The number of a report is the first one whose name is free once the directory is
there. -/
structure Numbers (output : Output) (before : Disk) (report : Report) (number : Nat)
    (prepared : Disk) : Prop where
  ready : createFolders output.directory before = .ok () prepared
  taken : ∀ smaller < number, output.isTaken prepared (output.stem report) smaller
  free : prepared.has? (output.markdownPath (candidate (output.stem report) number)) = .ok false

theorem Numbers.makesFolders {before prepared : Disk} {number : Nat}
    (numbers : output.Numbers before report number prepared) : MakesFolders before prepared := by
  have makes := MakesFolders.createFolders output.directory before
  rwa [numbers.ready] at makes

theorem Numbers.new {before prepared : Disk} {number : Nat}
    (numbers : output.Numbers before report number prepared) :
    before.has (output.markdownPath (candidate (output.stem report) number)) = false := by
  rw [← Bool.not_eq_true]
  intro present
  obtain ⟨entry, found⟩ := has_iff.mp present
  have still : prepared.find _ = .ok entry := numbers.makesFolders.find found
  rw [has?_eq_false.mp numbers.free] at still
  cases still

/-- Where there is the directory, names are free if they were. -/
theorem Numbers.prepared_eq {before prepared : Disk} {number : Nat}
    (numbers : output.Numbers before report number prepared)
    (isFolder : before.isFolder output.directory = true) : prepared = before := by
  have ready := numbers.ready
  rw [createFolders_of_isFolder isFolder] at ready
  cases ready
  rfl

/-- What has been done when a report has been written. -/
structure Writes (output : Output) (report : Report) (stem : String) (prepared marked after : Disk) :
    Prop where
  markdown : prepared.write (output.markdownPath stem) report.toMarkdown = .ok marked
  json : output.writeJson = true → marked.write (output.jsonPath stem) report.toJson = .ok after
  alone : output.writeJson = false → after = marked

theorem writeAmid_eq_done (done : output.writeAmid mishaps report disk = .ok path after) :
    ∃ number prepared marked, output.Numbers disk report number prepared ∧
      path = output.markdownPath (candidate (output.stem report) number) ∧
      output.Writes report (candidate (output.stem report) number) prepared marked after := by
  rw [writeAmid] at done
  obtain ⟨_, prepared, ready, done⟩ := bind_eq_done.mp done
  obtain ⟨_, _, got, done⟩ := bind_eq_done.mp done
  cases got
  obtain ⟨stem, middle, searched, done⟩ := bind_eq_done.mp done
  obtain ⟨rfl, number, rfl, taken, free⟩ := freeStem_first searched
  obtain ⟨_, marked, written, done⟩ := bind_eq_done.mp done
  have written := Writing.writeFile_eq_done written
  have numbers : output.Numbers disk report number middle :=
    ⟨Writing.createFolders_eq_done ready, taken, free⟩
  cases wanted : output.writeJson with
  | true =>
      rw [if_pos wanted] at done
      obtain ⟨_, final, also, done⟩ := bind_eq_done.mp done
      cases done
      have also := Writing.writeFile_eq_done also
      refine ⟨number, middle, marked, numbers, rfl, written, fun _ => also, fun unwanted => ?_⟩
      simp [wanted] at unwanted
  | false =>
      rw [if_neg (by simp [wanted])] at done
      cases done
      refine ⟨number, middle, _, numbers, rfl, written, fun alsoJson => ?_, fun _ => rfl⟩
      simp [wanted] at alsoJson

theorem Writes.holds {prepared marked : Disk} (isStem : IsOneName stem)
    (writes : output.Writes report stem prepared marked after) : output.Holds after stem report := by
  cases wanted : output.writeJson with
  | true => exact Holds.of_both isStem writes.markdown (writes.json wanted)
  | false => exact Holds.of_markdown wanted (writes.alone wanted ▸ writes.markdown)

/-- What is kept by each step of a report holds of what the report leaves, whether or not
it comes to its end. -/
theorem left_writeAmid (holds : Disk → Prop) (mishaps : Mishaps)
    (folders : ∀ prepared, MakesFolders disk prepared → holds prepared)
    (markdown : ∀ number prepared text after, output.Numbers disk report number prepared →
      prepared.write (output.markdownPath (candidate (output.stem report) number)) text =
        .ok after → holds prepared → holds after)
    (json : ∀ number prepared marked text after, output.Numbers disk report number prepared →
      prepared.write (output.markdownPath (candidate (output.stem report) number))
        report.toMarkdown = .ok marked →
      output.writeJson = true →
      marked.write (output.jsonPath (candidate (output.stem report) number)) text = .ok after →
      holds marked → holds after) :
    holds (left (output.writeAmid mishaps report disk)) := by
  rw [writeAmid]
  refine left_bind holds (folders _ (Writing.left_createFolders mishaps output.directory disk)) ?_
  intro _ prepared ready kept
  refine left_bind holds kept ?_
  intro _ _ got kept
  cases got
  refine left_bind holds (by rwa [left_freeStem]) ?_
  intro chosen _ searched kept
  obtain ⟨rfl, number, rfl, taken, free⟩ := freeStem_first searched
  have numbers : output.Numbers disk report number _ :=
    ⟨Writing.createFolders_eq_done ready, taken, free⟩
  refine left_bind holds ?_ ?_
  · exact Writing.left_writeFile holds kept fun text after written =>
      markdown number _ text after numbers written kept
  · intro _ marked written kept
    have written := Writing.writeFile_eq_done written
    cases wanted : output.writeJson with
    | false =>
        rw [if_neg (by simp)]
        exact kept
    | true =>
        rw [if_pos rfl]
        refine left_bind holds ?_ fun _ _ _ kept => kept
        exact Writing.left_writeFile holds kept fun text after also =>
          json number _ marked text after numbers written wanted also kept

/-- What has been written before stays, whatever comes of the next report. -/
theorem Holds.writeAmid (isPrefix : IsOneName output.filePrefix) (isStem : IsOneName stem)
    (mishaps : Mishaps) (next : Report) (holds : output.Holds disk stem report) :
    output.Holds (left (output.writeAmid mishaps next disk)) stem report := by
  have isChosen (number : Nat) := (IsOneName.stem isPrefix next).candidate number
  apply left_writeAmid (output.Holds · stem report) mishaps
  · exact fun _ makes => holds.makesFolders makes
  · -- The name was free, so it is not that of the report that is there.
    intro number _ _ _ numbers written holds
    exact holds.writeMarkdown isStem (isChosen number) (holds.ne_of_free numbers.free) written
  · intro number prepared _ _ _ numbers _ _ also kept
    have differs : stem ≠ candidate (output.stem next) number :=
      (holds.makesFolders numbers.makesFolders).ne_of_free numbers.free
    exact kept.writeJson isStem (isChosen number) differs also

end Output

end FaultDrill
