import FaultDrill.Disk.Basic
import FaultDrill.Proofs.Steps
import FaultDrill.Proofs.Text.Splitting
import Mathlib.Data.List.Perm.Subperm
import Mathlib.Data.List.Nodup
import Mathlib.Tactic.Choose

/-!
Where paths lead, and what is found there after something has been made or written.
Folders that are made take nothing away, and a file that is written changes what is
at its own place only.
-/

namespace FaultDrill.Disk

variable {disk before after : Disk} {place other : Place} {path : String}

/-! ## Entries -/

theorem lookup_filter_ne (differs : other ≠ place) (entries : List (Place × Entry)) :
    (entries.filter fun entry => entry.1 != place).lookup other = entries.lookup other := by
  induction entries with
  | nil => rfl
  | cons entry rest induction =>
      obtain ⟨here, found⟩ := entry
      by_cases same : here = place
      · subst same
        have passed : (other == here) = false := beq_eq_false_iff_ne.mpr differs
        simpa [List.lookup_cons, passed] using induction
      · rw [List.filter_cons_of_pos (by simpa using same), List.lookup_cons, List.lookup_cons,
          induction]

theorem entry_put_self (inner : place ≠ []) (entry : Entry) :
    entry? (disk.put place entry) place = some entry := by
  simp [ entry?, put, inner, List.isEmpty_iff]

theorem entry_put_of_ne (differs : other ≠ place) (entry : Entry) :
    entry? (disk.put place entry) other = disk.entry? other := by
  have passed : (other == place) = false := beq_eq_false_iff_ne.mpr differs
  simp only [ entry?, put, List.lookup_cons, passed, lookup_filter_ne differs]

theorem mem_places_of_entry {entry : Entry} (inner : place ≠ [])
    (present : disk.entry? place = some entry) : place ∈ disk.entries.map Prod.fst := by
  have found : disk.entries.lookup place = some entry := by
    simpa [ entry?, inner, List.isEmpty_iff] using present
  obtain ⟨front, back, split, _⟩ := List.lookup_eq_some_iff.mp found
  rw [split]
  simp

/-! ## Paths -/

/-- Where a path starts. -/
def origin (disk : Disk) (path : String) : Place :=
  if path.toList.head? = some '/' then [] else disk.home

/-- The place that the names of a path lead to. -/
def follow (disk : Disk) (path : String) : Except FileError Place :=
  (parts path).foldlM disk.step (disk.origin path)

theorem locate_eq_ok :
    disk.locate path = .ok place ↔ checkPath path = .ok () ∧ disk.follow path = .ok place := by
  rw [locate, bind_eq_ok]
  exact ⟨fun ⟨_, passed, led⟩ => ⟨passed, led⟩, fun ⟨passed, led⟩ => ⟨(), passed, led⟩⟩

/-- What can stand for one step inwards. -/
structure IsName (name : String) : Prop where
  filled : name ≠ ""
  single : '/' ∉ name.toList
  notHere : name ≠ "."
  notOutwards : name ≠ ".."

theorem parts_ending_slash (front : List Char) :
    parts (String.ofList (front ++ ['/'])) = parts (String.ofList front) := by
  have nothing : Text.splitAt '/' [] = [[]] := rfl
  simp [parts, Text.splitAt_append, nothing]

section Names

variable {directory name : String} (isName : IsName name)

include isName

theorem head?_ne_slash : name.toList.head? ≠ some '/' := fun slash =>
  isName.single (List.mem_of_head? slash)

theorem parts_of_isName : parts name = [name] := by
  have filled : name.toList ≠ [] := by simpa using isName.filled
  simp [parts, Text.splitAt_of_notMem isName.single, filled]

theorem parts_slash (front : List Char) :
    parts (String.ofList (front ++ '/' :: name.toList)) =
      parts (String.ofList front) ++ [name] := by
  have last := parts_of_isName isName
  simp only [parts] at last ⊢
  simp only [String.toList_ofList, Text.splitAt_append, List.filter_append, List.map_append, last]

/-- Behind a directory there is exactly one slash, which may be its own. -/
theorem join_filled (filled : directory ≠ "") :
    ∃ front, join directory name = String.ofList (front ++ '/' :: name.toList) ∧
      (directory = String.ofList front ∨ directory = String.ofList (front ++ ['/'])) := by
  have empty : directory.isEmpty = false := by simpa using filled
  simp only [join, head?_ne_slash isName, empty, Bool.or_false, decide_false, Bool.false_eq_true,
    if_false]
  split
  · rename_i slash
    have last : directory.toList.getLast? = some '/' := by simpa [endsInSlash] using slash
    obtain ⟨front, split⟩ := List.getLast?_eq_some_iff.mp last
    have whole : directory = String.ofList (front ++ ['/']) := by
      rw [← split, String.ofList_toList]
    refine ⟨front, ?_, .inr whole⟩
    apply String.toList_injective
    simp [whole]
  · refine ⟨directory.toList, ?_, .inl (by simp)⟩
    apply String.toList_injective
    simp

theorem parts_join : parts (join directory name) = parts directory ++ [name] := by
  by_cases empty : directory = ""
  · subst empty
    have none : parts "" = [] := rfl
    rw [none, List.nil_append, ← parts_of_isName isName]
    simp [join]
  · obtain ⟨front, joined, same | same⟩ := join_filled isName empty
    · rw [joined, parts_slash isName, same]
    · rw [joined, parts_slash isName, same, parts_ending_slash]

theorem origin_join : disk.origin (join directory name) = disk.origin directory := by
  by_cases empty : directory = ""
  · subst empty
    simp [join, origin, head?_ne_slash isName]
  · obtain ⟨front, joined, same | same⟩ := join_filled isName empty
    · rw [origin, origin, joined, same, String.toList_ofList, String.toList_ofList]
      cases front with
      | nil => exact absurd same empty
      | cons first rest => rfl
    · rw [origin, origin, joined, same, String.toList_ofList, String.toList_ofList]
      cases front <;> rfl

theorem follow_join :
    disk.follow (join directory name) = (disk.follow directory >>= (disk.step · name)) := by
  simp only [follow, parts_join isName, origin_join isName, List.foldlM_append, List.foldlM_cons,
    List.foldlM_nil, bind_pure]

theorem step_eq_ok :
    disk.step place name = .ok other ↔
      disk.entry? place = some .folder ∧ name.utf8ByteSize ≤ longestName ∧
        other = place ++ [name] := by
  rw [step]
  cases disk.entry? place with
  | none => simp
  | some entry =>
      cases entry with
      | file _ => simp
      | folder =>
          by_cases long : longestName < name.utf8ByteSize
          · simp [isName.notHere, isName.notOutwards, long, Nat.not_le_of_lt]
          · simp [isName.notHere, isName.notOutwards, long, Nat.le_of_not_lt, eq_comm]

/-- A name in a directory is found at one place behind that of the directory. -/
theorem locate_join (located : disk.locate (join directory name) = .ok place) :
    ∃ folder, disk.follow directory = .ok folder ∧ disk.entry? folder = some .folder ∧
      place = folder ++ [name] := by
  obtain ⟨_, followed⟩ := locate_eq_ok.mp located
  rw [follow_join isName] at followed
  obtain ⟨folder, led, stepped⟩ := bind_eq_ok.mp followed
  obtain ⟨isFolder, _, same⟩ := (step_eq_ok isName).mp stepped
  exact ⟨folder, led, isFolder, same⟩

/-- Two names in one directory that lead to one place are the same name. -/
theorem locate_join_injective {second : String} (isSecond : IsName second)
    (first : disk.locate (join directory name) = .ok place)
    (same : disk.locate (join directory second) = .ok place) : name = second := by
  obtain ⟨folder, _, _, rfl⟩ := locate_join isName first
  obtain ⟨other, _, _, equal⟩ := locate_join isSecond same
  obtain ⟨_, last⟩ := List.append_inj' equal rfl
  exact (List.cons.inj last).1

end Names

/-! ## Inner directories -/

section Inner

variable {directory outer name text : String}

theorem endsInSlash_append (filled : outer ≠ "") : endsInSlash (text ++ outer) = endsInSlash outer := by
  have some : outer.toList ≠ [] := by simpa using filled
  simp only [endsInSlash, String.toList_append, List.getLast?_append_of_ne_nil _ some]

theorem filled_of_endsInSlash (slash : endsInSlash path = true) : path ≠ "" := by
  rintro rfl
  cases slash

/-- A name behind an inner directory. -/
theorem join_append (slash : endsInSlash outer = true) (inside : name.toList.head? ≠ some '/') :
    join directory (outer ++ name) = join (join directory outer) name := by
  have filled := filled_of_endsInSlash slash
  have start : (outer ++ name).toList.head? = outer.toList.head? := by
    rw [String.toList_append, List.head?_append_of_ne_nil _ (by simpa using filled)]
  have ends : endsInSlash (join directory outer) = true := by
    rw [join]
    split
    · exact slash
    · split <;> exact (endsInSlash_append filled).trans slash
  have joined : join directory (outer ++ name) = join directory outer ++ name := by
    rw [join, join, start]
    split
    · rfl
    · split <;> simp only [String.append_assoc]
  have behind {path : String} (ends : endsInSlash path = true) : join path name = path ++ name := by
    rw [join, if_neg (by simp [inside, filled_of_endsInSlash ends]), if_pos ends]
  exact joined.trans (behind ends).symm

/-- Every text is a name with an inner directory before it, or a name alone. -/
theorem exists_last_name (text : String) :
    ∃ outer name, text = outer ++ name ∧ '/' ∉ name.toList ∧
      (outer = "" ∨ endsInSlash outer = true) := by
  by_cases slash : '/' ∈ text.toList.reverse
  · rcases List.eq_append_cons_of_mem slash with ⟨back, front, parts, notMem⟩
    refine ⟨String.ofList (front.reverse ++ ['/']), String.ofList back.reverse, ?_, ?_, .inr ?_⟩
    · apply String.toList_injective
      rw [← List.reverse_reverse text.toList, parts]
      simp
    · simpa using notMem
    · simp [endsInSlash]
  · exact ⟨"", text, (String.empty_append).symm, by simpa using slash, .inl rfl⟩

end Inner

/-! ## What is found -/

theorem find_eq_ok {entry : Entry} :
    disk.find path = .ok entry ↔
      ∃ place, disk.locate path = .ok place ∧ disk.entry? place = some entry ∧
        (entry = .folder ∨ endsInSlash path = false) := by
  rw [find, bind_eq_ok]
  refine exists_congr fun place => and_congr_right fun _ => ?_
  cases disk.entry? place with
  | none => exact iff_of_false nofun nofun
  | some there =>
      cases there with
      | folder =>
          constructor
          · rintro ⟨rfl⟩
            exact ⟨rfl, .inl rfl⟩
          · rintro ⟨⟨rfl⟩, _⟩
            rfl
      | file content =>
          cases slash : endsInSlash path with
          | true => exact iff_of_false nofun (by rintro ⟨⟨rfl⟩, ⟨⟨⟩⟩ | ⟨⟨⟩⟩⟩)
          | false =>
              constructor
              · rintro ⟨rfl⟩
                exact ⟨rfl, .inr rfl⟩
              · rintro ⟨⟨rfl⟩, _⟩
                rfl

theorem read_eq_ok {content : String} :
    disk.read path = .ok content ↔ disk.find path = .ok (.file content) := by
  rw [read, bind_eq_ok]
  constructor
  · rintro ⟨⟨⟩ | ⟨text⟩, found, kept⟩
    · cases kept
    · cases kept
      exact found
  · intro found
    exact ⟨_, found, rfl⟩

theorem has_iff : disk.has path = true ↔ ∃ entry, disk.find path = .ok entry := by
  rw [has]
  cases disk.find path <;> simp

theorem has?_eq_true : disk.has? path = .ok true ↔ ∃ entry, disk.find path = .ok entry := by
  rw [has?]
  cases disk.find path with
  | ok entry => simp
  | error error => cases error <;> simp

theorem has?_eq_false : disk.has? path = .ok false ↔ disk.find path = .error .missing := by
  rw [has?]
  cases disk.find path with
  | ok entry => simp
  | error error => cases error <;> simp

theorem locate_ne_of_found {directory name other : String} (isName : IsName name)
    (isOther : IsName other) (differs : name ≠ other) {entry : Entry}
    (found : disk.find (join directory name) = .ok entry) :
    disk.locate (join directory name) ≠ disk.locate (join directory other) := by
  intro same
  obtain ⟨place, located, _⟩ := find_eq_ok.mp found
  exact differs (locate_join_injective isName isOther located (same.symm.trans located))

/-! ## Names that are free -/

/-- Of one more name than there are entries, not all are taken. -/
theorem not_all_found {directory : String} {names : Nat → String}
    (areNames : ∀ number, IsName (names number)) (distinct : Function.Injective names) :
    ¬ ∀ number ≤ disk.entries.length,
      ∃ entry, disk.find (join directory (names number)) = .ok entry := by
  intro found
  have placed : ∀ number ≤ disk.entries.length, ∃ place,
      disk.locate (join directory (names number)) = .ok place ∧
        place ∈ disk.entries.map Prod.fst := by
    intro number small
    obtain ⟨entry, there⟩ := found number small
    obtain ⟨place, located, present, _⟩ := find_eq_ok.mp there
    obtain ⟨folder, _, _, same⟩ := locate_join (areNames number) located
    exact ⟨place, located, mem_places_of_entry (by simp [same]) present⟩
  -- Different names lead to different places, too many for the entries.
  choose! places located member using placed
  have nodup : ((List.range (disk.entries.length + 1)).map places).Nodup := by
    refine List.Nodup.map_on ?_ List.nodup_range
    intro left leftSmall right rightSmall same
    have leftLed := located left (Nat.lt_succ_iff.mp (List.mem_range.mp leftSmall))
    have rightLed := located right (Nat.lt_succ_iff.mp (List.mem_range.mp rightSmall))
    rw [← same] at rightLed
    exact distinct (locate_join_injective (areNames left) (areNames right) leftLed rightLed)
  have inside : (List.range (disk.entries.length + 1)).map places ⊆ disk.entries.map Prod.fst := by
    intro place among
    obtain ⟨number, small, rfl⟩ := List.mem_map.mp among
    exact member number (Nat.lt_succ_iff.mp (List.mem_range.mp small))
  have crowded := (List.subperm_of_subset nodup inside).length_le
  simp only [List.length_map, List.length_range] at crowded
  omega

end FaultDrill.Disk
