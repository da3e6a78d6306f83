import FaultDrill.ControlPlane.Command
import FaultDrill.Proofs.Settings.Soundness
import FaultDrill.Proofs.Url.Continuation
import Mathlib.Data.List.Flatten

/-!
Which resource of the control plane a command for a route is sent to. The name of the
route goes into the text of an address as it is. It comes out as one segment that stands
for the name exactly if nothing in the name means anything else in an address.
-/

namespace FaultDrill

namespace Url

/-! ## Segments that stand for names -/

/-- The segment of a path right behind a front stands for a name. -/
def Names (url : Url) (front name : String) : Prop :=
  ∃ segment rest, url.path.toList = front.toList ++ '/' :: (segment ++ rest) ∧ '/' ∉ segment ∧
    (rest = [] ∨ rest.head? = some '/') ∧ unescape segment = bytesOf name.toList

theorem splitAt_segment {segment rest : List Char} (noSlash : '/' ∉ segment)
    (ends : rest = [] ∨ rest.head? = some '/') :
    ∃ others, Text.splitAt '/' (segment ++ rest) = segment :: others := by
  rcases ends with none | slash
  · rw [none, List.append_nil]
    exact ⟨[], Text.splitAt_of_notMem noSlash⟩
  · rcases List.head?_eq_some_iff.mp slash with ⟨behind, chars⟩
    rw [chars, Text.splitAt_append, Text.splitAt_of_notMem noSlash]
    exact ⟨_, rfl⟩

theorem pathOf_head (segments : List (List Char)) :
    (pathOf segments).toList = [] ∨ (pathOf segments).toList.head? = some '/' := by
  cases segments with
  | nil => exact .inl rfl
  | cons segment rest => exact .inr (by simp [pathOf])

theorem names_iff {url : Url} {above segments : List (List Char)} {name : String}
    (path : url.path = pathOf segments) (whole : ∀ segment ∈ segments, '/' ∉ segment)
    (wholeAbove : ∀ segment ∈ above, '/' ∉ segment) :
    url.Names (pathOf above) name ↔
      ∃ segment others, segments = above ++ segment :: others ∧
        unescape segment = bytesOf name.toList := by
  constructor
  · rintro ⟨segment, rest, chars, noSlash, ends, stands⟩
    have parts := splitAt_pathOf whole [] List.not_mem_nil
    rcases splitAt_segment noSlash ends with ⟨others, split⟩
    rw [List.nil_append, ← path, chars, Text.splitAt_append, split,
      ← List.nil_append (pathOf above).toList, splitAt_pathOf wholeAbove [] List.not_mem_nil,
      List.cons_append, List.cons.injEq] at parts
    exact ⟨segment, others, parts.2.symm, stands⟩
  · rintro ⟨segment, others, told, stands⟩
    refine ⟨segment, (pathOf others).toList, ?_, ?_, pathOf_head others, stands⟩
    · rw [path, told, pathOf_append]
      simp [pathOf]
    · exact whole segment (by simp [told])

theorem Names.unique {first second : Url} {front name other : String}
    (names : first.Names front name) (others : second.Names front other)
    (same : first.path = second.path) : name = other := by
  rcases names with ⟨segment, rest, chars, noSlash, ends, stands⟩
  rcases others with ⟨another, behind, otherChars, otherNoSlash, otherEnds, otherStands⟩
  rw [same, otherChars, List.append_cancel_left_eq, List.cons.injEq] at chars
  rcases splitAt_segment noSlash ends with ⟨_, split⟩
  rcases splitAt_segment otherNoSlash otherEnds with ⟨_, otherSplit⟩
  rw [← chars.2, otherSplit, List.cons.injEq] at split
  rw [← split.1, otherStands] at stands
  exact String.toList_inj.mp (bytesOf_injective stands).symm

/-- Whether nothing in a name means anything but itself in the path of an address, be it
at the end or before more segments. -/
structure IsPlainName (name : String) : Prop where
  noQuery : '?' ∉ name.toList
  noFragment : '#' ∉ name.toList
  noBackslash : '\\' ∉ name.toList
  noEscape : holdsEscape name.toList = false
  noPoints : ¬ IsPoints name.toList
  solid : ∀ char ∈ name.toList, isSolid char
  tight : ∀ last, name.toList.getLast? = some last → isBlank last = false

/-- A plain name stands in an address as it is written. -/
theorem significant_named {name rest : String} (plain : IsPlainName name)
    (ends : rest = "" ∨ rest.toList.head? = some '/') :
    significant ("/proxies/" ++ name ++ rest) =
      "/proxies/".toList ++ name.toList ++ significant rest := by
  have rooted : ("/proxies/" ++ name ++ rest).toList.head? = some '/' := by
    simp [String.toList_append]
  have proxies : "/proxies/".toList.filter isSolid = "/proxies/".toList := by decide
  have solid : name.toList.filter isSolid = name.toList := List.filter_eq_self.mpr plain.solid
  have tight : ("/proxies/".toList ++ name.toList).rdropWhile isBlank =
      "/proxies/".toList ++ name.toList := by
    refine List.rdropWhile_eq_self_iff.mpr fun some => ?_
    rcases List.eq_nil_or_concat name.toList with empty | ⟨front, last, chars⟩
    · have slash : "/proxies/".toList.getLast (by decide) = '/' := by decide
      simp only [empty, List.append_nil, slash]
      decide
    · have known := plain.tight last (by simp [chars])
      simp [chars, known]
  have behind : significant rest = (rest.toList.filter isSolid).rdropWhile isBlank := by
    rcases ends with none | slash
    · rw [none]
      decide
    · exact significant_rooted slash
  rw [significant_rooted rooted, String.toList_append, String.toList_append, List.filter_append,
    List.filter_append, proxies, solid, rdropWhile_append_of_tight tight, behind]

theorem walk_named (reached : List (List Char)) {name : List Char} (noPoints : ¬ IsPoints name)
    (noSlash : '/' ∉ name) (noBackslash : '\\' ∉ name) {rest : List Char}
    (ends : rest = [] ∨ rest.head? = some '/')
    (stays : climbs 0 (splitPath (rest.drop 1)) = false) :
    ∃ more, walk reached (splitPath ("proxies/".toList ++ name ++ rest)) =
      reached ++ ["proxies".toList] ++ escape isSetApartInPath name :: more := by
  have proxies : escape isSetApartInPath "proxies".toList = "proxies".toList := by decide
  have parts : splitPath ("proxies/".toList ++ name ++ rest) =
      "proxies".toList :: splitPath (name ++ rest) := splitPath_append "proxies".toList _
  have walked : ∀ segments, walk reached ("proxies".toList :: name :: segments) =
      walk (reached ++ ["proxies".toList] ++ [escape isSetApartInPath name]) segments := by
    intro segments
    rw [walk_cons_plain (by decide), walk_cons_plain noPoints, proxies]
  rw [parts]
  rcases ends with none | slash
  · rw [none, List.append_nil, splitPath_of_whole noSlash noBackslash, walked, walk]
    exact ⟨[], by simp⟩
  · rcases List.head?_eq_some_iff.mp slash with ⟨behind, chars⟩
    rw [chars] at stays
    have apart : ∀ above, walk (above ++ []) (splitPath behind) =
        above ++ walk [] (splitPath behind) := fun above => walk_of_not_climbs above stays
    simp only [List.append_nil] at apart
    rw [chars, splitPath_append, splitPath_of_whole noSlash noBackslash, List.singleton_append,
      walked, apart]
    exact ⟨_, List.append_assoc _ _ _⟩

theorem wholeAbove {reached : List (List Char)} (whole : ∀ segment ∈ reached, '/' ∉ segment) :
    ∀ segment ∈ reached ++ ["proxies".toList], '/' ∉ segment := by
  intro segment member
  rcases List.mem_append.mp member with early | last
  · exact whole segment early
  · rw [List.mem_singleton.mp last]
    decide

theorem onward_named (base : Url) {reached : List (List Char)}
    (whole : ∀ segment ∈ reached, '/' ∉ segment) {name rest : String} (plain : IsPlainName name)
    (noSlash : '/' ∉ name.toList) (ends : rest = "" ∨ rest.toList.head? = some '/')
    (noQuery : '?' ∉ rest.toList) (noFragment : '#' ∉ rest.toList) (stays : ¬ Climbs rest) :
    (base.onward reached ("/proxies/" ++ name ++ rest)).query = none ∧
      (base.onward reached ("/proxies/" ++ name ++ rest)).Names
        (pathOf (reached ++ ["proxies".toList])) name := by
  have absent : ∀ mark, mark ∉ "proxies/".toList → mark ∉ name.toList → mark ∉ rest.toList →
      mark ∉ "proxies/".toList ++ name.toList ++ significant rest := by
    intro mark apart inName inRest member
    rcases List.mem_append.mp member with front | back
    · rcases List.mem_append.mp front with word | inside
      · exact apart word
      · exact inName inside
    · exact inRest (mem_of_mem_significant back)
  have split : splitQuery ((significant ("/proxies/" ++ name ++ rest)).drop 1) =
      ("proxies/".toList ++ name.toList ++ significant rest, none) := by
    rw [significant_named plain ends]
    exact splitQuery_of_plain (absent '#' (by decide) plain.noFragment noFragment)
      (absent '?' (by decide) plain.noQuery noQuery)
  have behind : significant rest = [] ∨ (significant rest).head? = some '/' := by
    rcases ends with none | slash
    · rw [none]
      exact .inl (by decide)
    · rw [significant_eq_cons slash]
      exact .inr rfl
  have staysBehind : climbs 0 (splitPath ((significant rest).drop 1)) = false := by
    have apart : ∀ mark, mark ∉ rest.toList → mark ∉ (significant rest).drop 1 :=
      fun mark absent member => absent (mem_of_mem_significant (List.mem_of_mem_drop member))
    rw [Climbs, splitQuery_of_plain (apart '#' noFragment) (apart '?' noQuery),
      Bool.not_eq_true] at stays
    exact stays
  rcases walk_named reached plain.noPoints noSlash plain.noBackslash behind staysBehind with
    ⟨more, walked⟩
  rw [onward, split]
  refine ⟨rfl, (names_iff rfl (fun _ => slash_notMem_of_walk whole) (wholeAbove whole)).mpr
    ⟨_, more, walked, ?_⟩⟩
  rw [unescape_escape]
  exact (unescape_eq_bytesOf_iff _).mpr plain.noEscape

/-- What counts of a name at the end of an address. -/
def kept (name : List Char) : List Char := (name.filter isSolid).rdropWhile isBlank

theorem kept_sublist (name : List Char) : (kept name).Sublist name :=
  (List.rdropWhile_prefix isBlank _).sublist.trans List.filter_sublist

theorem significant_name (name : String) :
    (significant ("/proxies/" ++ name)).drop 1 = "proxies/".toList ++ kept name.toList := by
  have rooted : ("/proxies/" ++ name).toList.head? = some '/' := by simp
  have proxies : "/proxies/".toList.filter isSolid = "/proxies/".toList := by decide
  have tight : "/proxies/".toList.rdropWhile isBlank = "/proxies/".toList := by decide
  rw [significant_rooted rooted, String.toList_append, List.filter_append, proxies,
    rdropWhile_append_of_tight tight]
  rfl

/-- What a segment of a name stands for is as long as the name only if nothing of the name
got lost. -/
theorem segment_eq_name {name segment : List Char} (among : segment ∈ splitPath (kept name))
    (stands : unescape segment = bytesOf name) : segment = name ∧ kept name = name := by
  have within := (mem_splitPath among).1
  have shorter := length_unescape_le segment
  rw [stands] at shorter
  have bytes : (bytesOf segment).Sublist (bytesOf name) :=
    (within.trans (kept_sublist name)).flatMap _
  have whole := bytesOf_injective (bytes.eq_of_length_le shorter)
  rw [whole] at within
  exact ⟨whole, (kept_sublist name).antisymm within⟩

theorem solid_of_kept {name : List Char} (whole : kept name = name) {char : Char}
    (member : char ∈ name) : isSolid char := by
  rw [← whole] at member
  exact (List.mem_filter.mp ((List.rdropWhile_prefix isBlank _).subset member)).2

theorem tight_of_kept {name : List Char} (whole : kept name = name) {last : Char}
    (ends : name.getLast? = some last) : isBlank last = false := by
  have stays : name.rdropWhile isBlank = name := by
    rw [← whole]
    exact List.rdropWhile_idempotent isBlank _
  rcases List.getLast?_eq_some_iff.mp ends with ⟨front, chars⟩
  have seen := List.rdropWhile_eq_self_iff.mp stays (by simp [chars])
  simpa [chars] using seen

theorem path_of_name (base : Url) (reached : List (List Char)) {name : String}
    (noFragment : '#' ∉ name.toList)
    (query : (base.onward reached ("/proxies/" ++ name)).query = none) :
    '?' ∉ kept name.toList ∧ (base.onward reached ("/proxies/" ++ name)).path =
      pathOf (walk (reached ++ ["proxies".toList]) (splitPath (kept name.toList))) := by
  have noFragmentKept : '#' ∉ "proxies/".toList ++ kept name.toList := by
    intro member
    rcases List.mem_append.mp member with word | inside
    · exact absurd word (by decide)
    · exact noFragment ((kept_sublist _).subset inside)
  rw [onward, significant_name] at query ⊢
  dsimp only at query ⊢
  have noQuery : '?' ∉ "proxies/".toList ++ kept name.toList :=
    plain_of_splitQuery noFragmentKept (Option.map_eq_none_iff.mp query)
  have proxies : escape isSetApartInPath "proxies".toList = "proxies".toList := by decide
  have parts : splitPath ("proxies/".toList ++ kept name.toList) =
      "proxies".toList :: splitPath (kept name.toList) := splitPath_append "proxies".toList _
  rw [splitQuery_of_plain noFragmentKept noQuery, pathFrom, parts, walk_cons_plain (by decide),
    proxies]
  exact ⟨fun member => noQuery (List.mem_append_right _ member), rfl⟩

/-- A name that is read from the segment behind all routes is plain. -/
theorem isPlainName_of_names {base : Url} {reached : List (List Char)}
    (whole : ∀ segment ∈ reached, '/' ∉ segment) {name : String} (named : name ≠ "")
    (noFragment : '#' ∉ name.toList)
    (query : (base.onward reached ("/proxies/" ++ name)).query = none)
    (names : (base.onward reached ("/proxies/" ++ name)).Names
      (pathOf (reached ++ ["proxies".toList])) name) : IsPlainName name := by
  rcases path_of_name base reached noFragment query with ⟨noQuery, path⟩
  rcases (names_iff path (fun _ => slash_notMem_of_walk (wholeAbove whole))
    (wholeAbove whole)).mp names with ⟨segment, others, walked, stands⟩
  have found : (walk (reached ++ ["proxies".toList]) (splitPath (kept name.toList)))[
      (reached ++ ["proxies".toList]).length]? = some segment := by
    rw [walked, List.getElem?_append_right le_rfl, Nat.sub_self]
    rfl
  rcases mem_of_walk le_rfl found with nothing | ⟨told, among, noPoints, escaped⟩
  · rw [nothing] at stands
    have empty : [] = name.toList := bytesOf_injective stands
    exact absurd (String.toList_inj.mp empty.symm) named
  · rw [escaped, unescape_escape] at stands
    rcases segment_eq_name among stands with ⟨isName, all⟩
    rw [isName] at among noPoints stands
    rw [all] at noQuery
    exact
      { noQuery
        noFragment
        noBackslash := (mem_splitPath among).2.2
        noEscape := (unescape_eq_bytesOf_iff _).mp stands
        noPoints
        solid := fun _ => solid_of_kept all
        tight := fun _ => tight_of_kept all }

end Url

namespace Command

/-! ## Commands for routes -/

/-- The route that a command is for, if it is for one that is there. -/
def route? : Command → Option String
  | .inject route _ | .remove route _ | .enable route _ => some route
  | .reset | .configure _ => none

/-- The end of the path of an order, behind the name of its route. -/
def behindRoute : Command → String
  | .inject _ _ => "/toxics"
  | .remove _ (some toxic) => "/toxics/" ++ toxic
  | _ => ""

theorem path_of_order {command : Command} {order : Order} {route : String}
    (ordered : command.order? = .ok (some order)) (isFor : command.route? = some route) :
    order.path = "/proxies/" ++ route ++ command.behindRoute := by
  cases command with
  | reset => cases isFor
  | configure _ => cases isFor
  | inject name fault =>
      cases isFor
      rw [order?] at ordered
      split at ordered <;> cases ordered
      rfl
  | remove name toxic =>
      cases isFor
      cases toxic with
      | none => cases ordered
      | some toxic =>
          cases ordered
          rw [behindRoute, ← String.append_assoc]
  | enable name enabled =>
      cases isFor
      cases ordered
      exact String.append_empty.symm

/-- A command is for a route, and what it names behind the route stays below the route. -/
structure IsFor (command : Command) (name : String) : Prop where
  route : command.route? = some name
  noQuery : '?' ∉ command.behindRoute.toList
  noFragment : '#' ∉ command.behindRoute.toList
  noClimb : ¬ Url.Climbs command.behindRoute

/-- The text of the address that a command is sent to, if it takes a request. -/
def destination? (command : Command) (address : String) : Option String :=
  match command.order? with
  | .ok (some order) => some (Url.withPath address order.path)
  | _ => none

def url? (command : Command) (address : String) : Option Url :=
  (command.destination? address).bind fun text => (Url.parse text).toOption

/-- Whether the request for a command, if it takes one, is sent to the resource whose name
is found right behind a front, and to nothing else. -/
def Addresses (command : Command) (address front name : String) : Prop :=
  ∀ text, command.destination? address = some text → Url.fragment? text = none ∧
    ∃ url, Url.parse text = .ok url ∧ url.query = none ∧ url.Names front name

variable {address : String} {command : Command} {name : String}

theorem destination_of_isFor (isFor : command.IsFor name) {text : String}
    (sent : command.destination? address = some text) :
    text = Url.withPath address ("/proxies/" ++ name ++ command.behindRoute) := by
  rw [destination?] at sent
  split at sent
  · rename_i order ordered
    cases sent
    rw [path_of_order ordered isFor.route]
  · cases sent

theorem behindRoute_head (command : Command) :
    command.behindRoute = "" ∨ command.behindRoute.toList.head? = some '/' := by
  cases command with
  | reset => exact .inl rfl
  | configure _ => exact .inl rfl
  | inject _ _ => exact .inr (show "/toxics".toList.head? = some '/' by decide)
  | remove _ toxic =>
      cases toxic with
      | none => exact .inl rfl
      | some toxic => exact .inr (by simp [behindRoute])
  | enable _ _ => exact .inl rfl

theorem isFor_enable (name : String) (enabled : Bool) : (Command.enable name enabled).IsFor name :=
  { route := rfl
    noQuery := show '?' ∉ "".toList by decide
    noFragment := show '#' ∉ "".toList by decide
    noClimb := show ¬ Url.Climbs "" by decide }

section GoesOn

variable {base : Url} {reached : List (List Char)}

theorem parse_destination (goesOn : Url.GoesOn address base reached) (rest : String) :
    Url.parse (Url.withPath address ("/proxies/" ++ name ++ rest)) =
      .ok (base.onward reached ("/proxies/" ++ name ++ rest)) :=
  goesOn.onward _ (by simp)

theorem addresses_of_isPlainName (ends : Url.EndsInPath address)
    (goesOn : Url.GoesOn address base reached) (plain : Url.IsPlainName name)
    (noSlash : '/' ∉ name.toList) (isFor : command.IsFor name) :
    command.Addresses address (Url.pathOf (reached ++ ["proxies".toList])) name := by
  intro text sent
  rw [destination_of_isFor isFor sent]
  have onward := Url.onward_named base goesOn.whole plain noSlash command.behindRoute_head
    isFor.noQuery isFor.noFragment isFor.noClimb
  refine ⟨Url.fragment?_eq_none_iff.mpr fun member => ?_, _, parse_destination goesOn _, onward⟩
  rcases Url.mem_withPath member with before | behind
  · exact ends.noFragment before
  · rw [String.toList_append, String.toList_append] at behind
    rcases List.mem_append.mp behind with front | rest
    · rcases List.mem_append.mp front with word | inside
      · exact absurd word (by decide)
      · exact plain.noFragment inside
    · exact isFor.noFragment rest

theorem isPlainName_of_addresses (goesOn : Url.GoesOn address base reached) (named : name ≠ "")
    (addresses : (Command.enable name true).Addresses address
      (Url.pathOf (reached ++ ["proxies".toList])) name) : Url.IsPlainName name := by
  rcases addresses _ rfl with ⟨noFragment, url, parsed, query, names⟩
  have onward := goesOn.onward ("/proxies/" ++ name) (by simp)
  rw [onward, Except.ok.injEq] at parsed
  rw [← parsed] at query names
  refine Url.isPlainName_of_names goesOn.whole named ?_ query names
  intro member
  refine Url.fragment?_eq_none_iff.mp noFragment ?_
  rw [Url.withPath, String.toList_append, String.toList_append]
  exact List.mem_append_right _ (List.mem_append_right _ member)

end GoesOn

theorem url_of_addresses {front : String} (addresses : command.Addresses address front name)
    {url : Url} (sent : command.url? address = some url) : url.Names front name := by
  rcases Option.bind_eq_some_iff.mp sent with ⟨text, destination, read⟩
  rcases addresses text destination with ⟨-, known, parsed, -, names⟩
  rw [toOption_eq_some.mp read, Except.ok.injEq] at parsed
  rw [parsed]
  exact names

/-- A route that has passed its check is addressed by its name exactly if the name is plain.
Routes of different plain names share no path. -/
theorem addresses_iff_isPlainName (sound : IsWebAddress address) (ends : Url.EndsInPath address) :
    ∃ base stem, Url.parse address = .ok base ∧
      (∃ count, base.path = stem ++ String.ofList (List.replicate count '/')) ∧
      (∀ route : Route, route.check = .ok () →
        ((∀ command : Command, command.IsFor route.name →
            command.Addresses address (stem ++ "/proxies") route.name) ↔
          Url.IsPlainName route.name)) ∧
      ∀ route other : Route, route.check = .ok () → other.check = .ok () →
        Url.IsPlainName route.name → Url.IsPlainName other.name → route.name ≠ other.name →
        ∀ command rival : Command, command.IsFor route.name → rival.IsFor other.name →
        ∀ url ∈ command.url? address, ∀ elsewhere ∈ rival.url? address,
          url.path ≠ elsewhere.path := by
  rcases sound with ⟨base, parsed, web⟩
  rcases Url.parse_goesOn parsed (Url.isHostScheme_of_isWeb web) ends with ⟨reached, goesOn⟩
  have front : Url.pathOf (reached ++ ["proxies".toList]) = Url.pathOf reached ++ "/proxies" := by
    rw [Url.pathOf_concat, String.ofList_toList, String.append_assoc]
    rfl
  have addressed : ∀ {name}, Url.IsPlainName name → '/' ∉ name.toList → ∀ {command : Command},
      command.IsFor name → command.Addresses address (Url.pathOf reached ++ "/proxies") name := by
    intro name plain noSlash command isFor
    rw [← front]
    exact addresses_of_isPlainName ends goesOn plain noSlash isFor
  refine ⟨base, Url.pathOf reached, parsed, ?_, fun route checked => ⟨fun all => ?_, ?_⟩, ?_⟩
  · rcases goesOn.path with ⟨count, chars⟩
    refine ⟨count, String.toList_inj.mp ?_⟩
    rw [chars, String.toList_append, String.toList_ofList]
  · have enabling := all _ (isFor_enable route.name true)
    rw [← front] at enabling
    exact isPlainName_of_addresses goesOn (Route.name_of_check checked).1.ne_empty enabling
  · exact fun plain command isFor => addressed plain (Route.name_of_check checked).2 isFor
  · intro route other checked otherChecked plain otherPlain apart command rival isFor rivalFor
      url sent elsewhere rivalSent same
    have names := url_of_addresses (addressed plain (Route.name_of_check checked).2 isFor) sent
    have others := url_of_addresses
      (addressed otherPlain (Route.name_of_check otherChecked).2 rivalFor) rivalSent
    exact apart (names.unique others same)

theorem standard_is_addressed :
    ∃ stem, ∀ command : Command, command.IsFor ({} : Route).name →
      command.Addresses ({} : ControlPlane).apiUrl (stem ++ "/proxies") ({} : Route).name := by
  have sound : IsWebAddress ({} : ControlPlane).apiUrl :=
    ⟨⟨"http", some (.name "localhost"), some 8474, "/", none⟩, by decide +kernel, .inl rfl⟩
  have ends : Url.EndsInPath ({} : ControlPlane).apiUrl :=
    { noQuery := by decide +kernel
      noFragment := by decide +kernel
      tight := by
        intro last ends
        have digit : (({} : ControlPlane).apiUrl.toList.filter Url.isSolid).getLast? = some '4' := by
          decide +kernel
        rw [digit, Option.some.injEq] at ends
        rw [← ends]
        decide }
  have plain : Url.IsPlainName ({} : Route).name :=
    { noQuery := by decide +kernel
      noFragment := by decide +kernel
      noBackslash := by decide +kernel
      noEscape := by decide +kernel
      noPoints := by decide +kernel
      solid := by
        have all : ({} : Route).name.toList.all Url.isSolid = true := by decide +kernel
        exact List.all_eq_true.mp all
      tight := by
        intro last ends
        have letter : ({} : Route).name.toList.getLast? = some 'y' := by decide +kernel
        rw [letter, Option.some.injEq] at ends
        rw [← ends]
        decide }
  have checked : ({} : Route).check = .ok () := eq_ok_of_isOk (by decide +kernel)
  rcases addresses_iff_isPlainName sound ends with ⟨_, stem, -, -, each, -⟩
  exact ⟨stem, (each {} checked).mpr plain⟩

/-- A question mark in the name of a route sends its commands to the resource of another
one. -/
theorem marked_name_addresses_other :
    ({ name := "a?b" } : Route).check = .ok () ∧ ({ name := "a" } : Route).check = .ok () ∧
      ∃ url elsewhere, (Command.enable "a?b" false).url? ({} : ControlPlane).apiUrl = some url ∧
        (Command.enable "a" false).url? ({} : ControlPlane).apiUrl = some elsewhere ∧
        url.query = some "b" ∧ url.path = elsewhere.path :=
  ⟨eq_ok_of_isOk (by decide +kernel), eq_ok_of_isOk (by decide +kernel),
    ⟨"http", some (.name "localhost"), some 8474, "/proxies/a", some "b"⟩,
    ⟨"http", some (.name "localhost"), some 8474, "/proxies/a", none⟩,
    by decide +kernel, by decide +kernel, rfl, rfl⟩

end Command

end FaultDrill
