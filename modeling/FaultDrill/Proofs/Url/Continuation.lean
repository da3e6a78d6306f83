import FaultDrill.Proofs.Url.Walking
import Mathlib.Data.List.DropRight

/-!
Paths behind addresses. Where an address ends in its path, a path that is put behind it
goes on from there, and scheme, host and port stay what they are. Slashes at the end of
the address make no difference.
-/

namespace FaultDrill.Url

/-! ## Blanks -/

/-- What does not count around an address. -/
def isBlank (char : Char) : Bool := char.toNat ≤ 0x20

/-- What counts within an address. -/
def isSolid (char : Char) : Bool := char ≠ '\t' && char ≠ '\n' && char ≠ '\r'

theorem isBlank_of_not_isSolid {char : Char} (loose : isSolid char = false) :
    isBlank char = true := by
  simp only [isSolid, Bool.and_eq_false_iff, decide_eq_false_iff_not, not_not] at loose
  rcases loose with (tab | newline) | carriage
  · rw [tab]
    decide
  · rw [newline]
    decide
  · rw [carriage]
    decide

theorem dropWhile_filter (text : List Char) :
    (text.filter isSolid).dropWhile isBlank = (text.dropWhile isBlank).filter isSolid := by
  induction text with
  | nil => rfl
  | cons char rest induction =>
      cases solid : isSolid char with
      | false =>
          rw [List.filter_cons_of_neg (by simp [solid]), induction,
            List.dropWhile_cons_of_pos (isBlank_of_not_isSolid solid)]
      | true =>
          rw [List.filter_cons_of_pos solid]
          cases blank : isBlank char with
          | true => rw [List.dropWhile_cons_of_pos blank, induction, List.dropWhile_cons_of_pos blank]
          | false =>
              rw [List.dropWhile_cons_of_neg (by simp [blank]),
                List.dropWhile_cons_of_neg (by simp [blank]), List.filter_cons_of_pos solid]

/-- Tabs and line breaks may go before the blanks around an address do. -/
theorem significant_eq (text : String) :
    significant text = ((text.toList.filter isSolid).dropWhile isBlank).rdropWhile isBlank := by
  rw [dropWhile_filter, List.rdropWhile, ← List.filter_reverse, dropWhile_filter,
    ← List.filter_reverse]
  rfl

theorem mem_dropWhile {drops : Char → Bool} {char : Char} {text : List Char} (member : char ∈ text)
    (stays : drops char = false) : char ∈ text.dropWhile drops := by
  rw [← List.takeWhile_append_dropWhile (p := drops) (l := text)] at member
  rcases List.mem_append.mp member with taken | left
  · rw [List.mem_takeWhile_imp taken] at stays
    cases stays
  · exact left

theorem isSolid_of_not_isBlank {char : Char} (seen : isBlank char = false) : isSolid char = true := by
  cases loose : isSolid char with
  | true => rfl
  | false =>
      rw [isBlank_of_not_isSolid loose] at seen
      cases seen

theorem mem_significant {text : String} {char : Char} (member : char ∈ text.toList)
    (seen : isBlank char = false) : char ∈ significant text := by
  rw [significant_eq, List.rdropWhile, List.mem_reverse]
  refine mem_dropWhile (List.mem_reverse.mpr (mem_dropWhile ?_ seen)) seen
  exact List.mem_filter.mpr ⟨member, isSolid_of_not_isBlank seen⟩

theorem rdropWhile_append (drops : Char → Bool) (front back : List Char) :
    (front ++ back).rdropWhile drops =
      if back.rdropWhile drops = [] then front.rdropWhile drops
      else front ++ back.rdropWhile drops := by
  simp only [List.rdropWhile, List.reverse_append, List.dropWhile_append, List.reverse_eq_nil_iff,
    List.isEmpty_iff]
  split
  · rfl
  · rw [List.reverse_append, List.reverse_reverse]

theorem rdropWhile_append_of_tight {drops : Char → Bool} {front : List Char}
    (tight : front.rdropWhile drops = front) (back : List Char) :
    (front ++ back).rdropWhile drops = front ++ back.rdropWhile drops := by
  rw [rdropWhile_append, tight]
  split
  · rename_i nothing
    rw [nothing, List.append_nil]
  · rfl

theorem trim_append (front : List Char) {back : List Char} (starts : back.head? = some '/') :
    ((front ++ back).dropWhile isBlank).rdropWhile isBlank =
      front.dropWhile isBlank ++ back.rdropWhile isBlank := by
  rcases List.head?_eq_some_iff.mp starts with ⟨path, rooted⟩
  have some : back.rdropWhile isBlank ≠ [] := by
    rw [Ne, List.rdropWhile_eq_nil_iff]
    intro blank
    have slash := blank '/' (by simp [rooted])
    cases slash
  have dropped : (front ++ back).dropWhile isBlank = front.dropWhile isBlank ++ back := by
    rw [List.dropWhile_append]
    split
    · rename_i nothing
      rw [List.isEmpty_iff.mp nothing, rooted, List.dropWhile_cons_of_neg (by decide)]
      rfl
    · rfl
  rw [dropped, rdropWhile_append, if_neg some]

/-! ## Addresses that end in their path -/

theorem withoutSlashes_append (text : List Char) :
    ∃ count, text = withoutSlashes text ++ List.replicate count '/' := by
  let isSlash (char : Char) : Bool := char = '/'
  have parts := List.rdropWhile_append_rtakeWhile (p := isSlash) (l := text)
  refine ⟨_, parts.symm.trans (congrArg _ (List.eq_replicate_of_mem fun char member => ?_))⟩
  simpa [isSlash] using List.mem_rtakeWhile_imp member

theorem withoutSlashes_slashes (text : List Char) (count : Nat) :
    withoutSlashes (text ++ List.replicate count '/') = withoutSlashes text := by
  rw [withoutSlashes, withoutSlashes, List.reverse_append, List.reverse_replicate,
    List.dropWhile_append_of_pos]
  intro char member
  simp [List.eq_of_mem_replicate member]

theorem replicate_slash_head (count : Nat) :
    List.replicate count '/' = [] ∨ (List.replicate count '/').head? = some '/' := by
  cases count with
  | zero => exact .inl rfl
  | succ count => exact .inr (by rw [List.replicate_succ, List.head?_cons])

/-- Slashes at the end of an address do not count. -/
theorem withPath_slashes (address path : String) (count : Nat) :
    withPath (address ++ String.ofList (List.replicate count '/')) path = withPath address path := by
  rw [withPath, withPath, String.toList_append, String.toList_ofList, withoutSlashes_slashes]

theorem mem_withPath {address path : String} {char : Char}
    (member : char ∈ (withPath address path).toList) :
    char ∈ address.toList ∨ char ∈ path.toList := by
  rw [withPath, String.toList_append, String.toList_ofList] at member
  refine (List.mem_append.mp member).imp_left fun within => ?_
  exact (List.rdropWhile_prefix _ _).subset within

/-- Whether a path can be put behind an address: the address has no query and no fragment
that the path would become a part of, and it does not end in a blank, which counts if a
path is behind it. -/
structure EndsInPath (address : String) : Prop where
  noQuery : '?' ∉ address.toList
  noFragment : '#' ∉ address.toList
  tight : ∀ last, (address.toList.filter isSolid).getLast? = some last → isBlank last = false

/-- What counts of an address in front of a path. -/
def lead (address : String) : List Char :=
  ((withoutSlashes address.toList).filter isSolid).dropWhile isBlank

theorem lead_subset (address : String) : lead address ⊆ address.toList := by
  rcases withoutSlashes_append address.toList with ⟨count, parts⟩
  intro char member
  rw [parts]
  have kept := (List.dropWhile_suffix _).subset member
  exact List.mem_append_left _ (List.mem_filter.mp kept).1

theorem significant_rooted {path : String} (rooted : path.toList.head? = some '/') :
    significant path = (path.toList.filter isSolid).rdropWhile isBlank := by
  rcases List.head?_eq_some_iff.mp rooted with ⟨rest, chars⟩
  rw [significant_eq, chars, List.filter_cons_of_pos (by decide),
    List.dropWhile_cons_of_neg (by decide)]

theorem significant_eq_cons {path : String} (rooted : path.toList.head? = some '/') :
    significant path = '/' :: (significant path).drop 1 := by
  rcases List.head?_eq_some_iff.mp rooted with ⟨rest, chars⟩
  rw [significant_rooted rooted, chars, List.filter_cons_of_pos (by decide)]
  have within := List.rdropWhile_prefix isBlank (l := '/' :: rest.filter isSolid)
  cases kept : ('/' :: rest.filter isSolid).rdropWhile isBlank with
  | nil =>
      have blank := List.rdropWhile_eq_nil_iff.mp kept '/' List.mem_cons_self
      cases blank
  | cons first others =>
      rw [kept, List.cons_prefix_cons] at within
      rw [within.1]
      rfl

theorem significant_withPath (address : String) {path : String}
    (rooted : path.toList.head? = some '/') :
    significant (withPath address path) = lead address ++ significant path := by
  rcases List.head?_eq_some_iff.mp rooted with ⟨rest, chars⟩
  have starts : (path.toList.filter isSolid).head? = some '/' := by
    rw [chars, List.filter_cons_of_pos (by decide)]
    rfl
  rw [significant_rooted rooted, significant_eq, withPath, String.toList_append,
    String.toList_ofList, List.filter_append, trim_append _ starts]
  rfl

theorem significant_of_endsInPath {address : String} (ends : EndsInPath address) :
    ∃ count, significant address = lead address ++ List.replicate count '/' := by
  rcases withoutSlashes_append address.toList with ⟨count, parts⟩
  refine ⟨count, ?_⟩
  have same : withPath address (String.ofList (List.replicate count '/')) = address := by
    apply String.toList_inj.mp
    rw [withPath, String.toList_append, String.toList_ofList, String.toList_ofList, ← parts]
  cases count with
  | zero =>
      have all : withoutSlashes address.toList = address.toList := by simpa using parts.symm
      rw [significant_eq, lead, all, List.replicate_zero, List.append_nil,
        List.rdropWhile_eq_self_iff]
      intro some
      rw [(List.dropWhile_suffix _).getLast some, ends.tight _ (List.getLast?_eq_some_getLast _)]
      decide
  | succ count =>
      have rooted : (String.ofList (List.replicate (count + 1) '/')).toList.head? = some '/' := by
        rw [String.toList_ofList, List.replicate_succ, List.head?_cons]
      have whole := significant_withPath address rooted
      have slashes : significant (String.ofList (List.replicate (count + 1) '/')) =
          List.replicate (count + 1) '/' := by
        rw [significant_rooted rooted, String.toList_ofList, List.filter_replicate,
          if_pos (by decide), List.rdropWhile_eq_self_iff]
        intro some
        simp
        decide
      rw [same, slashes] at whole
      exact whole

/-! ## Reading on -/

/-- A scheme ends in front of any slash. -/
theorem splitScheme_of_append {front back rest : List Char} {scheme : String}
    (rooted : back = [] ∨ back.head? = some '/')
    (split : splitScheme (front ++ back) = some (scheme, rest)) :
    ∃ behind, splitScheme front = some (scheme, behind) ∧ rest = behind ++ back := by
  rcases colon_of_splitScheme split with ⟨name, first, parts, chars, head, letter, named⟩
  have onward : ∀ middle, front = name ++ ':' :: middle → rest = middle ++ back →
      ∃ behind, splitScheme front = some (scheme, behind) ∧ rest = behind ++ back := by
    intro middle inFront others
    refine ⟨middle, ?_, others⟩
    rw [inFront, named]
    exact splitScheme_of_colon chars head letter
  rcases List.append_eq_append_iff.mp parts with ⟨middle, inName, inBack⟩ | ⟨middle, inFront, others⟩
  · rcases rooted with none | slash
    · simp [none] at inBack
    · rw [inBack] at slash
      cases middle with
      | nil => cases slash
      | cons char _ =>
          have isSlash : char = '/' := by simpa using slash
          have isChar := chars char (by simp [inName])
          rw [isSlash] at isChar
          cases isChar
  · cases middle with
    | nil =>
        rw [List.nil_append] at others
        rcases rooted with none | slash
        · simp [none] at others
        · rw [← others] at slash
          cases slash
    | cons colon behind =>
        rw [List.cons_append, List.cons.injEq] at others
        rw [← others.1] at inFront
        exact onward behind inFront others.2

theorem splitQuery_append {front : List Char} (noQuery : '?' ∉ front) (noFragment : '#' ∉ front)
    (back : List Char) :
    splitQuery (front ++ back) = (front ++ (splitQuery back).1, (splitQuery back).2) := by
  unfold splitQuery
  dsimp only
  rw [List.takeWhile_append_of_pos (all_ne_of_notMem noFragment),
    List.takeWhile_append_of_pos (all_ne_of_notMem noQuery), List.length_append,
    List.drop_length_add_append]
  split <;> rfl

theorem splitQuery_slash (path : List Char) :
    splitQuery ('/' :: path) = ('/' :: (splitQuery path).1, (splitQuery path).2) :=
  @splitQuery_append ['/'] (by decide) (by decide) path

/-- The segments reached by the text behind the host. -/
def segmentsBehind : List Char → List (List Char)
  | [] => []
  | _ :: path => pass [] (splitPath path)

theorem slash_notMem_segmentsBehind {tail segment : List Char}
    (member : segment ∈ segmentsBehind tail) : '/' ∉ segment := by
  cases tail with
  | nil => cases member
  | cons first path => exact slash_notMem_of_pass (by simp) member

theorem splitPath_ne_nil (text : List Char) : splitPath text ≠ [] := Text.splitAt_ne_nil _ _

theorem pathFrom_continued (tail path : List Char) :
    pathFrom [] ((tail ++ '/' :: path).drop 1) = pathFrom (segmentsBehind tail) path := by
  cases tail with
  | nil => rfl
  | cons first rest =>
      rw [List.cons_append, List.drop_succ_cons, List.drop_zero, pathFrom, splitPath_append,
        walk_append _ _ (splitPath_ne_nil path)]
      rfl

theorem pathOf_append (front back : List (List Char)) :
    (pathOf (front ++ back)).toList = (pathOf front).toList ++ (pathOf back).toList := by
  simp [pathOf]

theorem walk_slashes (reached : List (List Char)) (count : Nat) :
    walk reached (splitPath (List.replicate count '/')) =
      reached ++ List.replicate (count + 1) [] := by
  induction count generalizing reached with
  | zero => simp [splitPath, Text.splitAt, walk, plainPoints, escape]
  | succ count induction =>
      have split : splitPath (List.replicate (count + 1) '/') =
          [] :: splitPath (List.replicate count '/') := splitPath_append [] _
      have plain : ¬ IsPoints [] := by decide
      rw [split, walk_cons_plain plain, induction, List.append_assoc]
      rfl

/-- Slashes behind a path lengthen it. -/
theorem pathFrom_slashes (tail : List Char) (count : Nat) :
    ∃ more, (pathFrom [] ((tail ++ List.replicate count '/').drop 1)).toList =
      (pathOf (segmentsBehind tail)).toList ++ List.replicate more '/' := by
  have empty : ∀ more, (pathOf (List.replicate more [])).toList = List.replicate more '/' := by
    intro more
    simp [pathOf, List.flatMap_replicate]
  cases count with
  | zero =>
      rw [List.replicate_zero, List.append_nil]
      cases tail with
      | nil => exact ⟨1, rfl⟩
      | cons first path =>
          rw [List.drop_succ_cons, List.drop_zero, pathFrom, walk_eq, pathOf_append, ending]
          split
          · exact ⟨1, rfl⟩
          · exact ⟨0, rfl⟩
  | succ count =>
      rw [List.replicate_succ, pathFrom_continued, pathFrom, walk_slashes, pathOf_append, empty]
      exact ⟨count + 1, rfl⟩

/-- The address that a path means behind an address whose path has reached some segments. -/
def onward (base : Url) (reached : List (List Char)) (path : String) : Url :=
  { base with
    path := pathFrom reached (splitQuery ((significant path).drop 1)).1
    query := (splitQuery ((significant path).drop 1)).2.map queryText }

/-- The text of an address stands for an address whose path has reached some segments, and
a path behind the text goes on from there. -/
structure GoesOn (address : String) (base : Url) (reached : List (List Char)) : Prop where
  query : base.query = none
  whole : ∀ segment ∈ reached, '/' ∉ segment
  path : ∃ count, base.path.toList = (pathOf reached).toList ++ List.replicate count '/'
  onward : ∀ path : String, path.toList.head? = some '/' →
    parse (withPath address path) = .ok (base.onward reached path)

/-- Slashes of either kind may stand in front of a host. -/
def isSlash (char : Char) : Bool := char = '/' || char = '\\'

theorem readScheme_of_isHost {scheme : String} (isHost : isHostScheme scheme) (text : List Char) :
    readScheme scheme text = readAuthority scheme (text.dropWhile isSlash) := by
  unfold readScheme
  exact if_pos isHost

theorem readScheme_goesOn {scheme : String} (isHost : isHostScheme scheme) {front : List Char}
    (noQuery : '?' ∉ front) (noFragment : '#' ∉ front) {count : Nat} {base : Url}
    (read : readScheme scheme (front ++ List.replicate count '/') = .ok base) :
    ∃ reached, base.query = none ∧ (∀ segment ∈ reached, '/' ∉ segment) ∧
      (∃ count, base.path.toList = (pathOf reached).toList ++ List.replicate count '/') ∧
      ∀ path, readScheme scheme (front ++ '/' :: path) =
        .ok { base with
          path := pathFrom reached (splitQuery path).1
          query := (splitQuery path).2.map queryText } := by
  rw [readScheme_of_isHost isHost, List.dropWhile_append] at read
  split at read
  · -- There is nothing but slashes, and so no host.
    rename_i nothing
    have slashes : (List.replicate count '/').dropWhile isSlash = [] := by
      rw [List.dropWhile_replicate]
      rfl
    rw [slashes, readAuthority_nil isHost] at read
    cases read
  · rename_i some
    rcases (readAuthority_eq_ok isHost).mp read with ⟨place, named, same⟩
    rw [authorityOf_append _ (replicate_slash_head count)] at named
    rw [behindAuthority_append _ (replicate_slash_head count)] at same
    have within : ∀ mark, mark ∉ front → mark ∉ behindAuthority (front.dropWhile isSlash) :=
      fun mark absent member =>
        absent ((List.dropWhile_suffix _).subset ((List.dropWhile_suffix _).subset member))
    have ofSlashes : splitQuery (List.replicate count '/') = (List.replicate count '/', none) := by
      apply splitQuery_of_plain
      · intro member
        cases List.eq_of_mem_replicate member
      · intro member
        cases List.eq_of_mem_replicate member
    rw [ofPlace, splitQuery_append (within '?' noQuery) (within '#' noFragment), ofSlashes] at same
    rw [← same]
    refine ⟨_, rfl, fun _ => slash_notMem_segmentsBehind, pathFrom_slashes _ count, fun path => ?_⟩
    rw [readScheme_of_isHost isHost, List.dropWhile_append, if_neg some]
    refine (readAuthority_eq_ok isHost).mpr ⟨place, ?_, ?_⟩
    · rw [authorityOf_append _ (.inr rfl)]
      exact named
    · rw [behindAuthority_append _ (.inr rfl), ofPlace,
        splitQuery_append (within '?' noQuery) (within '#' noFragment), splitQuery_slash]
      dsimp only
      rw [pathFrom_continued]

theorem parse_goesOn {address : String} {base : Url} (parsed : parse address = .ok base)
    (isHost : isHostScheme base.scheme) (ends : EndsInPath address) :
    ∃ reached, GoesOn address base reached := by
  rcases significant_of_endsInPath ends with ⟨count, chars⟩
  rcases parse_eq_ok.mp parsed with ⟨scheme, rest, split, read⟩
  rw [chars] at split
  rcases splitScheme_of_append (replicate_slash_head count) split with ⟨behind, front, slashes⟩
  rw [slashes] at read
  have sameScheme := readScheme_scheme read
  rw [sameScheme] at isHost
  have inAddress : ∀ char ∈ behind, char ∈ address.toList :=
    fun _ member => lead_subset address (mem_of_splitScheme front member)
  rcases readScheme_goesOn isHost (fun member => ends.noQuery (inAddress _ member))
    (fun member => ends.noFragment (inAddress _ member)) read with
    ⟨reached, query, whole, path, onward⟩
  refine ⟨reached, query, whole, path, fun path rooted =>
    parse_eq_ok.mpr ⟨scheme, behind ++ significant path, ?_, ?_⟩⟩
  · rw [significant_withPath address rooted, splitScheme_append _ front]
  · rw [significant_eq_cons rooted]
    exact onward _

/-! ## Paths by themselves -/

/-- The path that a rooted path stands for at the root of a host. -/
def ownPath (path : String) : String := pathFrom [] (splitQuery ((significant path).drop 1)).1

def ownQuery (path : String) : Option String :=
  (splitQuery ((significant path).drop 1)).2.map queryText

/-- What a text says behind its number sign. No address keeps it. -/
def fragment? (text : String) : Option (List Char) :=
  match (significant text).dropWhile (· ≠ '#') with
  | [] => none
  | _ :: fragment => some fragment

/-- Whether a rooted path climbs above the place where it starts. -/
def Climbs (path : String) : Prop :=
  climbs 0 (splitPath (splitQuery ((significant path).drop 1)).1) = true

instance (path : String) : Decidable (Climbs path) := inferInstanceAs (Decidable (_ = true))

example : ownPath "/a/../b?c#d" = "/b" ∧ ¬ Climbs "/a/../b?c#d" ∧ Climbs "/a/../../b" := by
  decide +kernel

theorem pathFrom_of_not_climbs (reached : List (List Char)) {path : List Char}
    (stays : climbs 0 (splitPath path) = false) :
    pathFrom reached path = pathOf reached ++ pathFrom [] path := by
  have apart : walk (reached ++ []) (splitPath path) = reached ++ walk [] (splitPath path) :=
    walk_of_not_climbs reached stays
  rw [List.append_nil] at apart
  apply String.toList_inj.mp
  rw [pathFrom, apart, pathOf_append, String.toList_append, pathFrom]

/-- A path that does not climb lengthens the path of an address by its own. -/
theorem onward_of_not_climbs (base : Url) (reached : List (List Char)) {path : String}
    (stays : ¬ Climbs path) :
    base.onward reached path =
      { base with path := pathOf reached ++ ownPath path, query := ownQuery path } := by
  rw [onward, ownPath, ownQuery, ← pathFrom_of_not_climbs reached (Bool.not_eq_true _ ▸ stays)]

theorem fragment?_eq_none_iff {text : String} : fragment? text = none ↔ '#' ∉ text.toList := by
  have seen : isBlank '#' = false := by decide
  rw [fragment?]
  split
  · rename_i nothing
    refine iff_of_true rfl fun member => ?_
    have other := List.dropWhile_eq_nil_iff.mp nothing '#' (mem_significant member seen)
    simp at other
  · rename_i first fragment behind
    refine iff_of_false nofun (not_not.mpr (mem_of_mem_significant ?_))
    have mark := List.head_dropWhile_not (fun char => decide (char ≠ '#'))
      (behind ▸ List.cons_ne_nil first fragment)
    simp only [behind, List.head_cons, decide_eq_false_iff_not, not_not] at mark
    rw [← mark]
    exact (List.dropWhile_suffix _).subset (behind ▸ List.mem_cons_self)

end FaultDrill.Url
