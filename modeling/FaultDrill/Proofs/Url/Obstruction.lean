import FaultDrill.Proofs.Url.Hosts

/-!
Addresses that a path does not extend. In an address with a query or a fragment the path
becomes a part of those, and a blank at the end becomes a part of the host, of the port or
of the last segment. Any other address is extended by all paths that do not climb.
-/

namespace FaultDrill.Url

/-- A path put behind an address leaves scheme, host and port alone, and brings its own query. -/
structure StaysAt (path : String) (base url : Url) : Prop where
  scheme : url.scheme = base.scheme
  host : url.host = base.host
  port : url.port = base.port
  query : url.query = ownQuery path

/-- A path put behind the text of an address brings its own fragment as well, and lengthens the
path of the address by its own. -/
structure Extends (address path : String) (base url : Url) : Prop extends StaysAt path base url where
  fragment : fragment? (withPath address path) = fragment? path
  longer : ∃ stem count, base.path = stem ++ String.ofList (List.replicate count '/') ∧
    url.path = stem ++ ownPath path

variable {address path : String} {base url : Url}

/-! ## Fragments -/

theorem mem_lead {char : Char} (member : char ∈ address.toList) (notSlash : char ≠ '/')
    (seen : isBlank char = false) : char ∈ lead address := by
  refine mem_dropWhile (List.mem_filter.mpr ⟨?_, isSolid_of_not_isBlank seen⟩) seen
  rw [withoutSlashes, List.mem_reverse]
  exact mem_dropWhile (List.mem_reverse.mpr member) (by simp [notSlash])

theorem fragment?_withPath (rooted : path.toList.head? = some '/')
    (noFragment : '#' ∉ address.toList) : fragment? (withPath address path) = fragment? path := by
  have absent : '#' ∉ lead address := fun member => noFragment (lead_subset address member)
  rw [fragment?, significant_withPath address rooted,
    List.dropWhile_append_of_pos (all_ne_of_notMem absent), fragment?]

theorem length_fragment {text : String} {fragment : List Char}
    (has : fragment? text = some fragment) :
    fragment.length < (significant text).length := by
  rw [fragment?] at has
  split at has
  · cases has
  · rename_i mark others behind
    cases has
    have within := (List.dropWhile_suffix (fun char => decide (char ≠ '#'))
      (l := significant text)).length_le
    rw [behind, List.length_cons] at within
    omega

/-- A fragment in front of a path takes in the path. -/
theorem noFragment_of_extends (rooted : path.toList.head? = some '/')
    (extended : Extends address path base url) : '#' ∉ address.toList := by
  intro member
  have mark : '#' ∈ (lead address).dropWhile fun char => decide (char ≠ '#') :=
    mem_dropWhile (mem_lead member (by decide) (by decide)) (by decide)
  cases behind : (lead address).dropWhile fun char => decide (char ≠ '#') with
  | nil =>
      rw [behind] at mark
      cases mark
  | cons first others =>
      have swallowed : fragment? (withPath address path) = some (others ++ significant path) := by
        rw [fragment?, significant_withPath address rooted, List.dropWhile_append, behind]
        rfl
      rw [extended.fragment] at swallowed
      have shorter := length_fragment swallowed
      rw [List.length_append] at shorter
      omega

/-! ## Queries -/

theorem suffix_of_splitQuery {text query : List Char} (has : (splitQuery text).2 = some query) :
    query <:+ text.takeWhile (· ≠ '#') := by
  unfold splitQuery at has
  dsimp only at has
  split at has
  · cases has
  · rename_i mark others behind
    cases has
    refine (List.suffix_cons mark query).trans ?_
    rw [← behind]
    exact List.drop_suffix _ _

theorem dropWhile_append_of_mem {drops : Char → Bool} {stop : Char} {front : List Char}
    (member : stop ∈ front) (stops : drops stop = false) (back : List Char) :
    (front ++ back).dropWhile drops = front.dropWhile drops ++ back := by
  rcases List.append_of_mem member with ⟨before, behind, parts⟩
  rw [parts, List.append_assoc, List.cons_append, dropWhile_append_of_stop stops,
    dropWhile_append_of_stop stops, List.append_assoc, List.cons_append]

theorem splitQuery_of_mem {front : List Char} (noFragment : '#' ∉ front) (mark : '?' ∈ front)
    (back : List Char) :
    ∃ query, (splitQuery (front ++ back)).2 = some (query ++ back.takeWhile (· ≠ '#')) := by
  have inBehind : '?' ∈ front.dropWhile fun char => decide (char ≠ '?') :=
    mem_dropWhile mark (by decide)
  unfold splitQuery
  dsimp only
  rw [List.takeWhile_append_of_pos (all_ne_of_notMem noFragment), drop_takeWhile,
    List.dropWhile_append]
  cases behind : front.dropWhile fun char => decide (char ≠ '?') with
  | nil =>
      rw [behind] at inBehind
      cases inBehind
  | cons first others => exact ⟨others, rfl⟩

theorem escape_append (isSetApart : Char → Bool) (front back : List Char) :
    escape isSetApart (front ++ back) = escape isSetApart front ++ escape isSetApart back :=
  List.flatMap_append

/-- What the text of an address is read as if a rooted path is behind it. -/
theorem readScheme_withPath (rooted : path.toList.head? = some '/')
    (parsed : parse (withPath address path) = .ok url) :
    ∃ scheme behind, splitScheme (lead address) = some (scheme, behind) ∧ url.scheme = scheme ∧
      readScheme scheme (behind ++ significant path) = .ok url := by
  rcases parse_eq_ok.mp parsed with ⟨scheme, rest, split, read⟩
  have slash : (significant path).head? = some '/' := by
    rw [significant_eq_cons rooted]
    rfl
  rw [significant_withPath address rooted] at split
  rcases splitScheme_of_append (.inr slash) split with ⟨behind, front, others⟩
  rw [others] at read
  exact ⟨scheme, behind, front, readScheme_scheme read, read⟩

theorem mem_behind {front behind : List Char} {scheme : String} {mark : Char}
    (split : splitScheme front = some (scheme, behind)) (member : mark ∈ front)
    (notColon : mark ≠ ':') (noSchemeChar : isSchemeChar mark = false) : mark ∈ behind := by
  rcases colon_of_splitScheme split with ⟨name, first, parts, chars, -⟩
  rw [parts] at member
  rcases List.mem_append.mp member with inName | inRest
  · rw [chars mark inName] at noSchemeChar
    cases noSchemeChar
  · rcases List.mem_cons.mp inRest with colon | later
    · exact absurd colon notColon
    · exact later

theorem query_of_readScheme {scheme : String} (isHost : isHostScheme scheme) {behind : List Char}
    (noFragment : '#' ∉ behind) (mark : '?' ∈ behind) {back : List Char}
    (read : readScheme scheme (behind ++ back) = .ok url) :
    ∃ query, url.query = some (queryText (query ++ back.takeWhile (· ≠ '#'))) := by
  have inTail : '?' ∈ behind.dropWhile isSlash := mem_dropWhile mark (by decide)
  have noFragmentTail : '#' ∉ behind.dropWhile isSlash :=
    fun member => noFragment ((List.dropWhile_suffix _).subset member)
  rw [readScheme_of_isHost isHost, List.dropWhile_append,
    if_neg (by simpa using List.ne_nil_of_mem inTail)] at read
  generalize behind.dropWhile isSlash = tail at inTail noFragmentTail read
  have stops : (!endsAuthority true '?') = false := by decide
  rcases (readAuthority_eq_ok isHost).mp read with ⟨place, -, same⟩
  rw [behindAuthority, dropWhile_append_of_mem inTail stops] at same
  have noFragmentRest : '#' ∉ tail.dropWhile fun char => !endsAuthority true char :=
    fun member => noFragmentTail ((List.dropWhile_suffix _).subset member)
  rcases splitQuery_of_mem noFragmentRest (mem_dropWhile inTail stops) back with ⟨query, split⟩
  refine ⟨query, ?_⟩
  rw [← same, ofPlace, split]
  rfl

/-- A query in front of a path takes in the path. -/
theorem noQuery_of_extends (rooted : path.toList.head? = some '/')
    (parsed : parse (withPath address path) = .ok url) (isHost : isHostScheme base.scheme)
    (extended : Extends address path base url) : '?' ∉ address.toList := by
  intro member
  have noFragment := noFragment_of_extends rooted extended
  rcases readScheme_withPath rooted parsed with ⟨scheme, behind, front, sameScheme, read⟩
  rw [← extended.scheme, sameScheme] at isHost
  have noFragmentBehind : '#' ∉ behind :=
    fun inBehind => noFragment (lead_subset address (mem_of_splitScheme front inBehind))
  have mark := mem_behind front (mem_lead member (by decide) (by decide)) (by decide) (by decide)
  rcases query_of_readScheme isHost noFragmentBehind mark read with ⟨query, swallowed⟩
  rw [extended.query, ownQuery] at swallowed
  rcases Option.map_eq_some_iff.mp swallowed with ⟨own, split, same⟩
  -- The query of the path itself is a part of what the other one takes in.
  rcases suffix_of_splitQuery split with ⟨before, whole⟩
  have lengths := congrArg List.length (String.ofList_injective same)
  rw [significant_eq_cons rooted, List.takeWhile_cons_of_pos (by decide), ← whole,
    escape_append, ← List.cons_append, escape_append, List.length_append,
    List.length_append] at lengths
  have slash : (escape isSetApartInQuery ('/' :: before)).length =
      1 + (escape isSetApartInQuery before).length := by
    rw [escape, List.flatMap_cons, if_neg (by decide), List.length_append]
    rfl
  omega

/-! ## Blanks -/

theorem mem_plainPoints {char : Char} {text : List Char} (member : char ∈ text)
    (plain : char ∉ ['%', '2', 'e', 'E']) : char ∈ plainPoints text := by
  simp only [List.mem_cons, List.not_mem_nil, or_false, not_or] at plain
  induction text using plainPoints.induct with
  | case1 rest induction =>
      rw [plainPoints]
      exact List.mem_cons_of_mem _ (induction (by simpa [plain] using member))
  | case2 rest induction =>
      rw [plainPoints]
      exact List.mem_cons_of_mem _ (induction (by simpa [plain] using member))
  | case3 first rest noLower noUpper induction =>
      rw [plainPoints.eq_3 first rest noLower noUpper]
      rcases List.mem_cons.mp member with same | later
      · rw [same]
        exact List.mem_cons_self
      · exact List.mem_cons_of_mem _ (induction later)
  | case4 => cases member

theorem not_isPoints_of_isBlank {char : Char} {segment : List Char} (member : char ∈ segment)
    (blank : isBlank char) : ¬ IsPoints segment := by
  have apart : ∀ other, isBlank other = false → char ≠ other :=
    fun other seen => ne_of_isBlank blank seen
  have inside : char ∈ plainPoints segment := by
    refine mem_plainPoints member ?_
    simp only [List.mem_cons, List.not_mem_nil, or_false, not_or]
    exact ⟨apart _ (by decide), apart _ (by decide), apart _ (by decide), apart _ (by decide)⟩
  have noPoint := apart '.' (by decide)
  rintro (one | two)
  · rw [one] at inside
    simp [noPoint] at inside
  · rw [two] at inside
    simp [noPoint] at inside

theorem splitAt_concat {separator : Char} (text : List Char) {more : List Char}
    (absent : separator ∉ more) :
    ∃ front last, Text.splitAt separator text = front ++ [last] ∧
      Text.splitAt separator (text ++ more) = front ++ [last ++ more] := by
  induction text with
  | nil => exact ⟨[], [], rfl, Text.splitAt_of_notMem absent⟩
  | cons char rest induction =>
      rcases induction with ⟨front, last, short, long⟩
      rw [List.cons_append, Text.splitAt, Text.splitAt, short, long]
      by_cases separates : char = separator
      · cases front with
        | nil => exact ⟨[[]], last, by simp [separates], by simp [separates]⟩
        | cons first others =>
            exact ⟨[] :: first :: others, last, by simp [separates], by simp [separates]⟩
      · cases front with
        | nil => exact ⟨[], char :: last, by simp [separates], by simp [separates]⟩
        | cons first others =>
            exact ⟨(char :: first) :: others, last, by simp [separates], by simp [separates]⟩

theorem escape_ne_nil {isSetApart : Char → Bool} {text : List Char} (some : text ≠ []) :
    escape isSetApart text ≠ [] := by
  cases text with
  | nil => exact absurd rfl some
  | cons char rest =>
      rw [escape, List.flatMap_cons]
      split
      · cases bytes : String.utf8EncodeChar char with
        | nil => exact absurd bytes String.utf8EncodeChar_ne_nil
        | cons byte others => simp [escapeByte]
      · simp

theorem length_pathOf_concat (segments : List (List Char)) (last : List Char) :
    (pathOf (segments ++ [last])).toList.length =
      (pathOf segments).toList.length + 1 + last.length := by
  rw [pathOf_append, List.length_append]
  simp [pathOf]
  omega

theorem length_pathOf_dropLast (segments : List (List Char)) :
    (pathOf segments.dropLast).toList.length ≤ (pathOf segments).toList.length := by
  rcases List.eq_nil_or_concat segments with none | ⟨front, last, parts⟩
  · rw [none]
    rfl
  · rw [parts, List.concat_eq_append, List.dropLast_concat, length_pathOf_concat]
    omega

section Blanks

variable {blanks : List Char} (all : ∀ char ∈ blanks, isBlank char) (someBlank : blanks ≠ [])
include all someBlank

/-- A path is shorter than what blanks at its end make of it if it goes on behind them. -/
theorem length_path_lt (text : List Char) :
    (pathOf (walk [] (splitPath text))).toList.length <
      (pathOf (pass [] (splitPath (text ++ blanks)))).toList.length := by
  have absent : ∀ mark, isBlank mark = false → mark ∉ blanks :=
    fun mark seen member => ne_of_isBlank (all mark member) seen rfl
  have straight := straight_of_noBackslash (absent '\\' (by decide))
  have noSlash := absent '/' (by decide)
  rcases splitAt_concat (text.map fun char => if char = '\\' then '/' else char) noSlash with
    ⟨front, last, short, long⟩
  rw [splitPath, splitPath, List.map_append, straight, short, long]
  rcases List.exists_mem_of_ne_nil blanks someBlank with ⟨blank, member⟩
  have noPoints : ¬ IsPoints (last ++ blanks) :=
    not_isPoints_of_isBlank (List.mem_append_right _ member) (all blank member)
  have longPass : pass [] (front ++ [last ++ blanks]) =
      pass [] front ++ [escape isSetApartInPath (last ++ blanks)] := by
    rw [pass_append]
    exact step_of_plain noPoints _
  have escaped : escape isSetApartInPath blanks ≠ [] := escape_ne_nil someBlank
  have more := List.length_pos_iff.mpr escaped
  have shortEnding : ending (front ++ [last]) = ending [last] :=
    ending_append front (List.cons_ne_nil _ _)
  rw [longPass, length_pathOf_concat, escape_append, List.length_append, walk_eq, pass_append,
    shortEnding]
  change (pathOf (step (pass [] front) last ++ ending [last])).toList.length < _
  by_cases points : IsPoints last
  · have lastEnding : ending [last] = [[]] := by simp [ending, points]
    rw [lastEnding, length_pathOf_concat]
    rcases points with one | two
    · rw [step_of_one one, List.length_nil]
      omega
    · have shorter := length_pathOf_dropLast (pass [] front)
      rw [step_of_two two, List.length_nil]
      omega
  · have lastEnding : ending [last] = [] := by simp [ending, points]
    rw [lastEnding, List.append_nil, step_of_plain points, length_pathOf_concat]
    omega

theorem hostAndPort_of_blanks (scheme : String) {front : List Char}
    (noBackslash : '\\' ∉ front ++ blanks) (place : Host × Option UInt16) :
    hostAndPort scheme (front ++ blanks) ≠ .ok place := by
  rcases List.eq_nil_or_concat blanks with none | ⟨others, last, parts⟩
  · exact absurd none someBlank
  · rw [List.concat_eq_append] at parts
    rw [parts, ← List.append_assoc] at noBackslash ⊢
    have blank := all last (by simp [parts])
    have noBackslashBefore : '\\' ∉ front ++ others :=
      fun member => noBackslash (List.mem_append_left _ member)
    exact hostAndPort_of_isBlank blank scheme noBackslashBefore place

theorem longer_of_readAuthority {scheme : String} (isHost : isHostScheme scheme)
    {tail back : List Char} (noQuery : '?' ∉ tail) (noFragment : '#' ∉ tail)
    (short : readAuthority scheme tail = .ok base)
    (long : readAuthority scheme (tail ++ blanks ++ '/' :: back) = .ok url) :
    ∃ reached, url.path = pathFrom reached (splitQuery back).1 ∧
      base.path.toList.length < (pathOf reached).toList.length := by
  have apart : ∀ char ∈ blanks, ∀ other, isBlank other = false → char ≠ other :=
    fun char member other seen => ne_of_isBlank (all char member) seen
  have absent : ∀ mark, isBlank mark = false → ∀ {front}, mark ∉ front → mark ∉ front ++ blanks := by
    intro mark seen front inFront member
    rcases List.mem_append.mp member with before | behind
    · exact inFront before
    · exact apart mark behind mark seen rfl
  have goesOn : ∀ char ∈ blanks, (!endsAuthority true char) = true := by
    intro char member
    have differs := apart char member
    simp [endsAuthority, differs '/' (by decide), differs '?' (by decide), differs '#' (by decide),
      differs '\\' (by decide)]
  rcases (readAuthority_eq_ok isHost).mp short with ⟨place, -, ofShort⟩
  rcases (readAuthority_eq_ok isHost).mp long with ⟨longPlace, named, ofLong⟩
  rw [authorityOf_append _ (.inr rfl)] at named
  rw [behindAuthority_append _ (.inr rfl)] at ofLong
  cases behind : behindAuthority tail with
  | nil =>
      -- The blanks would be a part of the host or the port.
      have whole : ∀ char ∈ tail ++ blanks, (!endsAuthority true char) = true := by
        intro char member
        rcases List.mem_append.mp member with front | back
        · exact List.dropWhile_eq_nil_iff.mp behind char front
        · exact goesOn char back
      have noBackslash : '\\' ∉ tail ++ blanks := fun member => by cases whole _ member
      rw [authorityOf, List.takeWhile_eq_self_iff.mpr whole] at named
      exact absurd named (hostAndPort_of_blanks all someBlank scheme noBackslash longPlace)
  | cons slash path =>
      have noQueryBehind : '?' ∉ slash :: path :=
        fun member => noQuery ((List.dropWhile_suffix _).subset (behind ▸ member))
      have noFragmentBehind : '#' ∉ slash :: path :=
        fun member => noFragment ((List.dropWhile_suffix _).subset (behind ▸ member))
      have stillBehind : behindAuthority (tail ++ blanks) = slash :: path ++ blanks := by
        rw [behindAuthority, List.dropWhile_append, ← behindAuthority, behind]
        rfl
      rw [behind, ofPlace, splitQuery_of_plain noFragmentBehind noQueryBehind] at ofShort
      rw [stillBehind, ofPlace, splitQuery_append (absent '?' (by decide) noQueryBehind)
        (absent '#' (by decide) noFragmentBehind), splitQuery_slash] at ofLong
      rw [← ofShort, ← ofLong]
      exact ⟨segmentsBehind (slash :: path ++ blanks), pathFrom_continued _ _,
        length_path_lt all someBlank path⟩

end Blanks

/-- What counts of the text of an address in front of a path are the blanks at its end, too. -/
theorem lead_of_isBlank {last : Char} (ends : (address.toList.filter isSolid).getLast? = some last)
    (blank : isBlank last) (counts : lead address ≠ []) :
    ∃ blanks, lead address = significant address ++ blanks ∧ (∀ char ∈ blanks, isBlank char) ∧
      blanks ≠ [] := by
  have noSlashes : withoutSlashes address.toList = address.toList := by
    rcases withoutSlashes_append address.toList with ⟨count, parts⟩
    cases count with
    | zero => simpa using parts.symm
    | succ count =>
        rw [parts, List.filter_append, List.filter_replicate, if_pos (by decide),
          List.replicate_succ', ← List.append_assoc, List.getLast?_concat, Option.some.injEq] at ends
        exact absurd ends.symm (ne_of_isBlank blank (by decide))
  have whole : significant address = (lead address).rdropWhile isBlank := by
    rw [significant_eq, lead, noSlashes]
  refine ⟨(lead address).rtakeWhile isBlank, ?_, fun _ => List.mem_rtakeWhile_imp, ?_⟩
  · rw [whole, List.rdropWhile_append_rtakeWhile]
  · intro none
    refine List.rtakeWhile_eq_nil_iff.mp none counts ?_
    have final : (lead address).getLast? = some last := by
      rw [← ends, ← noSlashes, List.getLast?_eq_some_getLast counts]
      exact ((List.dropWhile_suffix isBlank).getLast counts) ▸
        (List.getLast?_eq_some_getLast _).symm
    rw [List.getLast?_eq_some_getLast counts, Option.some.injEq] at final
    rw [final]
    exact blank

theorem tight_of_extends (rooted : path.toList.head? = some '/') (stays : ¬ Climbs path)
    (parsedBase : parse address = .ok base) (parsed : parse (withPath address path) = .ok url)
    (isHost : isHostScheme base.scheme) (extended : Extends address path base url) {last : Char}
    (ends : (address.toList.filter isSolid).getLast? = some last) : isBlank last = false := by
  rw [← Bool.not_eq_true]
  intro blank
  rcases readScheme_withPath rooted parsed with ⟨scheme, behind, front, -, read⟩
  have counts : lead address ≠ [] := by
    intro nothing
    rw [nothing] at front
    cases front
  rcases lead_of_isBlank ends blank counts with ⟨blanks, parts, all, someBlank⟩
  rcases parse_eq_ok.mp parsedBase with ⟨baseScheme, rest, split, readBase⟩
  have sameScheme := readScheme_scheme readBase
  have isHostRead := isHost
  rw [sameScheme] at isHostRead
  rw [parts, splitScheme_append blanks split] at front
  cases front
  have within : ∀ char ∈ rest.dropWhile isSlash, char ∈ address.toList := fun _ member =>
    mem_of_mem_significant (mem_of_splitScheme split ((List.dropWhile_suffix _).subset member))
  have noQuery : '?' ∉ rest.dropWhile isSlash :=
    fun member => noQuery_of_extends rooted parsed isHost extended (within _ member)
  have noFragment : '#' ∉ rest.dropWhile isSlash :=
    fun member => noFragment_of_extends rooted extended (within _ member)
  rw [readScheme_of_isHost isHostRead] at readBase read
  have someTail : (rest.dropWhile isSlash).isEmpty = false := by
    cases tail : rest.dropWhile isSlash with
    | nil =>
        rw [tail, readAuthority_nil isHostRead] at readBase
        cases readBase
    | cons _ _ => rfl
  rw [List.append_assoc, List.dropWhile_append, someTail, if_neg Bool.false_ne_true,
    ← List.append_assoc, significant_eq_cons rooted] at read
  rcases longer_of_readAuthority all someBlank isHostRead noQuery noFragment readBase read with
    ⟨reached, continued, shorter⟩
  rcases extended.longer with ⟨stem, count, basePath, urlPath⟩
  rw [Climbs, Bool.not_eq_true] at stays
  rw [continued, pathFrom_of_not_climbs reached stays, ← ownPath, String.append_left_inj] at urlPath
  rw [basePath, ← urlPath, String.toList_append, List.length_append] at shorter
  omega

/-! ## Extensions -/

theorem staysAt_onward (base : Url) (reached : List (List Char)) (path : String) :
    StaysAt path base (base.onward reached path) := by
  constructor <;> simp only [Url.onward, ownQuery]

theorem GoesOn.staysAt {reached : List (List Char)} (goesOn : GoesOn address base reached)
    (rooted : path.toList.head? = some '/') :
    ∃ url, parse (withPath address path) = .ok url ∧ StaysAt path base url :=
  ⟨_, goesOn.onward path rooted, staysAt_onward base reached path⟩

theorem GoesOn.extended {reached : List (List Char)} (goesOn : GoesOn address base reached)
    (noFragment : '#' ∉ address.toList) (rooted : path.toList.head? = some '/')
    (stays : ¬ Climbs path) :
    ∃ url, parse (withPath address path) = .ok url ∧ Extends address path base url := by
  rcases goesOn.path with ⟨count, basePath⟩
  have short : base.path = pathOf reached ++ String.ofList (List.replicate count '/') := by
    apply String.toList_inj.mp
    rw [basePath, String.toList_append, String.toList_ofList]
  have long : (base.onward reached path).path = pathOf reached ++ ownPath path := by
    rw [onward_of_not_climbs base reached stays]
  exact ⟨_, goesOn.onward path rooted,
    { toStaysAt := staysAt_onward base reached path
      fragment := fragment?_withPath rooted noFragment
      longer := ⟨pathOf reached, count, short, long⟩ }⟩

/-- A path that does not climb extends exactly the addresses that end in their path. -/
theorem extends_iff (rooted : path.toList.head? = some '/') (stays : ¬ Climbs path)
    (parsed : parse address = .ok base) (isHost : isHostScheme base.scheme) :
    (∃ url, parse (withPath address path) = .ok url ∧ Extends address path base url) ↔
      EndsInPath address := by
  constructor
  · rintro ⟨url, joined, extended⟩
    exact
      { noQuery := noQuery_of_extends rooted joined isHost extended
        noFragment := noFragment_of_extends rooted extended
        tight := fun _ => tight_of_extends rooted stays parsed joined isHost extended }
  · intro ends
    rcases parse_goesOn parsed isHost ends with ⟨reached, goesOn⟩
    exact goesOn.extended ends.noFragment rooted stays

end FaultDrill.Url
