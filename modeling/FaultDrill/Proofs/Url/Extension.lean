import FaultDrill.Proofs.Steps
import FaultDrill.Proofs.Text.Splitting
import FaultDrill.Url.Parser
import Mathlib.Data.List.TakeWhile

/-!
Addresses with one more segment. A word behind a slash lengthens the path of an address
and changes nothing else, provided that the address ends in its path and the path ends
in a segment.
-/

namespace FaultDrill.Url

/-! ## Words -/

/-- Letters, digits and what holds words together. They stand for themselves wherever
they are in an address. -/
def isWordChar (char : Char) : Bool := char.isAlphanum || char = '_' || char = '-'

theorem toNat_of_isWordChar {char : Char} (isWord : isWordChar char) :
    0x2D ≤ char.toNat ∧ char.toNat ≤ 0x7A := by
  change (decide (char.val ≥ 'A'.val ∧ char.val ≤ 'Z'.val) ||
    (decide (char.val ≥ 'a'.val) && decide (char.val ≤ 'z'.val)) ||
    (decide (char.val ≥ '0'.val) && decide (char.val ≤ '9'.val)) ||
    decide (char = '_') || decide (char = '-')) = true at isWord
  simp only [Bool.or_eq_true, Bool.and_eq_true, decide_eq_true_eq, ge_iff_le,
    UInt32.le_iff_toNat_le] at isWord
  change ((((65 ≤ char.toNat ∧ char.toNat ≤ 90) ∨ (97 ≤ char.toNat ∧ char.toNat ≤ 122)) ∨
    (48 ≤ char.toNat ∧ char.toNat ≤ 57)) ∨ char = '_') ∨ char = '-' at isWord
  rcases isWord with (letterOrDigit | underscore) | hyphen
  · omega
  · subst underscore
    decide
  · subst hyphen
    decide

theorem ne_of_isWordChar {char other : Char} (isWord : isWordChar char)
    (isNone : isWordChar other = false) : char ≠ other := by
  intro equal
  rw [equal, isNone] at isWord
  cases isWord

theorem isSetApartInPath_of_isWordChar {char : Char} (isWord : isWordChar char) :
    isSetApartInPath char = false := by
  have bounds := toNat_of_isWordChar isWord
  have printable : isOutsidePrintable char = false := by
    simp only [isOutsidePrintable, Bool.or_eq_false_iff, decide_eq_false_iff_not]
    omega
  rw [isSetApartInPath, printable, Bool.false_or]
  rw [← Bool.not_eq_true, List.contains_iff_mem]
  intro member
  have apart : " \"<>\x60#?\x7b\x7d".toList.all (fun other => !isWordChar other) := by
    decide +kernel
  have isNone := List.all_eq_true.mp apart char member
  rw [isWord] at isNone
  cases isNone

theorem escape_word {word : List Char} (isWord : ∀ char ∈ word, isWordChar char) :
    escape isSetApartInPath word = word := by
  induction word with
  | nil => rfl
  | cons char rest induction =>
      have first := isSetApartInPath_of_isWordChar (isWord char List.mem_cons_self)
      have others := induction fun char member => isWord char (List.mem_cons_of_mem _ member)
      rw [escape] at others ⊢
      rw [List.flatMap_cons, others, first]
      rfl

/-! ## The characters that count -/

theorem dropWhile_concat {drops : Char → Bool} {last : Char} (stays : drops last = false)
    (front : List Char) : ∃ rest, (front ++ [last]).dropWhile drops = rest ++ [last] := by
  rw [List.dropWhile_append]
  split
  · exact ⟨[], by simp [stays]⟩
  · exact ⟨_, rfl⟩

theorem reverse_dropWhile_concat {drops : Char → Bool} {last : Char} (stays : drops last = false)
    (front : List Char) :
    ((front ++ [last]).reverse.dropWhile drops).reverse = front ++ [last] := by
  simp [stays]

theorem significant_append {text more : String} {front : List Char} {last : Char}
    (ends : text.toList = front ++ [last]) (counts : 0x20 < last.toNat)
    (plain : ∀ char ∈ more.toList, 0x20 < char.toNat) :
    significant (text ++ more) = significant text ++ more.toList := by
  let isSpace (char : Char) : Bool := char.toNat ≤ 0x20
  have stays : ∀ char : Char, 0x20 < char.toNat → isSpace char = false :=
    fun char counts => decide_eq_false (Nat.not_le.mpr counts)
  have kept : more.toList.filter
      (fun char => char ≠ '\t' && char ≠ '\n' && char ≠ '\r') = more.toList := by
    refine List.filter_eq_self.mpr fun char member => ?_
    have printable := plain char member
    have apart : ∀ other : Char, other.toNat ≤ 0x20 → char ≠ other := by
      intro other small equal
      rw [equal] at printable
      omega
    simp [apart '\t' (by decide), apart '\n' (by decide), apart '\r' (by decide)]
  rcases dropWhile_concat (stays last counts) front with ⟨rest, dropped⟩
  unfold significant
  dsimp only
  rw [String.toList_append, ends, List.dropWhile_append, dropped, if_neg (by simp),
    reverse_dropWhile_concat (stays last counts)]
  rcases List.eq_nil_or_concat more.toList with none | ⟨start, final, some⟩
  · rw [none, List.append_nil, List.append_nil, reverse_dropWhile_concat (stays last counts)]
  · rw [List.concat_eq_append] at some
    have finalStays := stays final (plain final (by simp [some]))
    rw [some, ← List.append_assoc, reverse_dropWhile_concat finalStays, List.append_assoc,
      List.filter_append, ← some, kept]

/-! ## Schemes -/

theorem splitScheme_of_colon {name rest : List Char} (chars : ∀ char ∈ name, isSchemeChar char)
    {first : Char} (head : name.head? = some first) (letter : first.isAlpha) :
    splitScheme (name ++ ':' :: rest) = some (String.ofList (name.map Char.toLower), rest) := by
  have taken : (name ++ ':' :: rest).takeWhile isSchemeChar = name := by
    rw [List.takeWhile_append_of_pos chars]
    simp [isSchemeChar]
  have headFirst : (name ++ ':' :: rest).head? = some first := by
    rw [List.head?_append, head]
    rfl
  unfold splitScheme
  dsimp only
  rw [taken, headFirst, List.drop_left]
  exact if_pos letter

theorem colon_of_splitScheme {text rest : List Char} {scheme : String}
    (split : splitScheme text = some (scheme, rest)) :
    ∃ name first, text = name ++ ':' :: rest ∧ (∀ char ∈ name, isSchemeChar char) ∧
      name.head? = some first ∧ first.isAlpha ∧ scheme = String.ofList (name.map Char.toLower) := by
  have parts := List.prefix_iff_eq_append.mp (List.takeWhile_prefix isSchemeChar (l := text))
  have chars : ∀ char ∈ text.takeWhile isSchemeChar, isSchemeChar char :=
    fun char member => List.mem_takeWhile_imp member
  unfold splitScheme at split
  dsimp only at split
  generalize text.takeWhile isSchemeChar = name at parts chars split
  split at split
  · rename_i first others head behind
    split at split
    · rename_i letter
      cases split
      rw [behind] at parts
      refine ⟨name, first, parts.symm, chars, ?_, letter, rfl⟩
      cases name with
      | nil =>
          rw [← parts] at head
          cases head
          exact absurd letter (by decide)
      | cons known others =>
          rw [← parts] at head
          exact head
    · cases split
  · cases split

theorem mem_of_splitScheme {text rest : List Char} {scheme : String}
    (split : splitScheme text = some (scheme, rest)) {char : Char} (member : char ∈ rest) :
    char ∈ text := by
  rcases colon_of_splitScheme split with ⟨name, first, text, -⟩
  rw [text]
  exact List.mem_append_right _ (List.mem_cons_of_mem _ member)

theorem splitScheme_append {text rest : List Char} {scheme : String} (more : List Char)
    (split : splitScheme text = some (scheme, rest)) :
    splitScheme (text ++ more) = some (scheme, rest ++ more) := by
  rcases colon_of_splitScheme split with ⟨name, first, text, chars, head, letter, scheme⟩
  rw [text, scheme, List.append_assoc]
  exact splitScheme_of_colon chars head letter

/-! ## Hosts -/

theorem isHostScheme_of_isWeb {url : Url} (web : url.scheme = "http" ∨ url.scheme = "https") :
    isHostScheme url.scheme := by
  rcases web with http | https
  · rw [http]
    decide
  · rw [https]
    decide

def hostAndPort (scheme : String) (authority : List Char) :
    Except UrlError (Host × Option UInt16) := do
  let (hostText, portText) := splitPort false ((behindUser authority).getD authority)
  if hostText.isEmpty then throw .noHost
  let host ← specialHost hostText
  let port ← match portText with
    | some text => port? scheme (text.takeWhile (· ≠ '\\'))
    | none => .ok none
  return (host, port)

/-- The part of a text that names a host. -/
def authorityOf (text : List Char) : List Char :=
  text.takeWhile fun char => !endsAuthority true char

/-- What is behind the part of a text that names a host. -/
def behindAuthority (text : List Char) : List Char :=
  text.dropWhile fun char => !endsAuthority true char

theorem takeWhile_append_of_stop {keeps : Char → Bool} {stop : Char} (stops : keeps stop = false)
    (front back : List Char) :
    (front ++ stop :: back).takeWhile keeps = front.takeWhile keeps := by
  rw [List.takeWhile_append]
  split
  · rename_i whole
    have taken := List.takeWhile_prefix keeps (l := front)
    rw [List.takeWhile_cons_of_neg (by simp [stops]), List.append_nil,
      taken.eq_of_length whole]
  · rfl

theorem dropWhile_append_of_stop {drops : Char → Bool} {stop : Char} (stops : drops stop = false)
    (front back : List Char) :
    (front ++ stop :: back).dropWhile drops = front.dropWhile drops ++ stop :: back := by
  rw [List.dropWhile_append]
  split
  · rename_i nothing
    rw [List.isEmpty_iff.mp nothing, List.dropWhile_cons_of_neg (by simp [stops])]
    rfl
  · rfl

theorem authorityOf_append (front : List Char) {back : List Char}
    (rooted : back = [] ∨ back.head? = some '/') :
    authorityOf (front ++ back) = authorityOf front := by
  rcases rooted with none | slash
  · rw [none, List.append_nil]
  · rcases List.head?_eq_some_iff.mp slash with ⟨rest, chars⟩
    rw [chars]
    exact takeWhile_append_of_stop (by decide) front rest

theorem behindAuthority_append (front : List Char) {back : List Char}
    (rooted : back = [] ∨ back.head? = some '/') :
    behindAuthority (front ++ back) = behindAuthority front ++ back := by
  rcases rooted with none | slash
  · rw [none, List.append_nil, List.append_nil]
  · rcases List.head?_eq_some_iff.mp slash with ⟨rest, chars⟩
    rw [chars]
    exact dropWhile_append_of_stop (by decide) front rest

theorem drop_takeWhile (keeps : Char → Bool) (text : List Char) :
    text.drop (text.takeWhile keeps).length = text.dropWhile keeps := by
  have parts := List.takeWhile_append_dropWhile (p := keeps) (l := text)
  calc text.drop (text.takeWhile keeps).length
      = (text.takeWhile keeps ++ text.dropWhile keeps).drop (text.takeWhile keeps).length := by
        rw [parts]
    _ = text.dropWhile keeps := List.drop_left

/-- The address of a place, with the path and the query that are told behind it. -/
def ofPlace (scheme : String) (place : Host × Option UInt16) (behind : List Char) : Url :=
  { scheme
    host := some place.1
    port := place.2
    path := pathFrom [] ((splitQuery behind).1.drop 1)
    query := (splitQuery behind).2.map queryText }

theorem readAuthority_eq {scheme : String} (isHost : isHostScheme scheme) (text : List Char) :
    readAuthority scheme text =
      (hostAndPort scheme (authorityOf text)).map fun place =>
        ofPlace scheme place (behindAuthority text) := by
  have isSpecial : isSpecialScheme scheme = true := by rw [isSpecialScheme, isHost, Bool.true_or]
  unfold readAuthority hostAndPort ofPlace
  rw [isSpecial, isHost, behindAuthority, ← drop_takeWhile, authorityOf]
  dsimp only
  generalize text.takeWhile (fun char => !endsAuthority true char) = authority
  generalize splitPort false ((behindUser authority).getD authority) = parts
  rcases parts with ⟨hostText, portText⟩
  simp only [Bool.true_or, Bool.and_true, if_true]
  cases hostText.isEmpty with
  | true => rfl
  | false =>
      simp only [Bool.false_eq_true, if_false]
      cases specialHost hostText with
      | error error => rfl
      | ok host =>
          cases portText with
          | none => rfl
          | some portText =>
              simp only [bind, Except.bind]
              cases port? scheme (portText.takeWhile (· ≠ '\\')) <;> rfl

theorem readAuthority_eq_ok {scheme : String} (isHost : isHostScheme scheme) {text : List Char}
    {url : Url} :
    readAuthority scheme text = .ok url ↔
      ∃ place, hostAndPort scheme (authorityOf text) = .ok place ∧
        ofPlace scheme place (behindAuthority text) = url := by
  rw [readAuthority_eq isHost, map_eq_ok]

theorem readAuthority_nil {scheme : String} (isHost : isHostScheme scheme) :
    readAuthority scheme [] = .error .noHost := by
  rw [readAuthority_eq isHost]
  rfl

theorem readAuthority_scheme {scheme : String} {text : List Char} {url : Url}
    (read : readAuthority scheme text = .ok url) : url.scheme = scheme := by
  unfold readAuthority at read
  dsimp only at read
  simp only [bind, Except.bind] at read
  repeat' split at read
  all_goals first | cases read; rfl | cases read

theorem readScheme_scheme {scheme : String} {text : List Char} {url : Url}
    (read : readScheme scheme text = .ok url) : url.scheme = scheme := by
  unfold readScheme at read
  split at read
  · exact readAuthority_scheme read
  · split at read
    · rename_i isFile
      unfold readFile at read
      dsimp only at read
      simp only [bind, Except.bind] at read
      repeat' split at read
      all_goals first | cases read; exact isFile.symm | cases read
    · split at read
      · exact readAuthority_scheme read
      · cases read
        rfl

/-! ## Paths -/

theorem all_ne_of_notMem {mark : Char} {text : List Char} (absent : mark ∉ text) :
    ∀ char ∈ text, decide (char ≠ mark) = true := by
  intro char member
  rw [decide_eq_true_eq]
  intro same
  exact absent (same ▸ member)

theorem takeWhile_ne_of_notMem {mark : Char} {text : List Char} (absent : mark ∉ text) :
    text.takeWhile (· ≠ mark) = text :=
  List.takeWhile_eq_self_iff.mpr (all_ne_of_notMem absent)

theorem splitQuery_of_plain {text : List Char} (noFragment : '#' ∉ text) (noQuery : '?' ∉ text) :
    splitQuery text = (text, none) := by
  unfold splitQuery
  dsimp only
  rw [takeWhile_ne_of_notMem noFragment, takeWhile_ne_of_notMem noQuery, List.drop_length]

theorem plain_of_splitQuery {text : List Char} (noFragment : '#' ∉ text)
    (plain : (splitQuery text).2 = none) : '?' ∉ text := by
  unfold splitQuery at plain
  dsimp only at plain
  rw [takeWhile_ne_of_notMem noFragment] at plain
  have taken := List.takeWhile_prefix (fun char => decide (char ≠ '?')) (l := text)
  intro member
  split at plain
  · rename_i nothing
    have whole := taken.eq_of_length_le (List.drop_eq_nil_iff.mp nothing)
    have kept := List.takeWhile_eq_self_iff.mp whole '?' member
    simp at kept
  · cases plain

theorem straight_of_noBackslash {text : List Char} (noBackslash : '\\' ∉ text) :
    text.map (fun char => if char = '\\' then '/' else char) = text := by
  refine (List.map_congr_left fun char member => ?_).trans (List.map_id text)
  exact if_neg fun same : char = '\\' => noBackslash (same ▸ member)

theorem splitPath_of_whole {text : List Char} (noSlash : '/' ∉ text) (noBackslash : '\\' ∉ text) :
    splitPath text = [text] := by
  rw [splitPath, straight_of_noBackslash noBackslash]
  exact Text.splitAt_of_notMem noSlash

theorem splitPath_append (front back : List Char) :
    splitPath (front ++ '/' :: back) = splitPath front ++ splitPath back := by
  unfold splitPath
  rw [List.map_append, List.map_cons]
  exact Text.splitAt_append '/' _ _

theorem splitPath_append_word (front : List Char) {word : List Char}
    (isWord : ∀ char ∈ word, isWordChar char) :
    splitPath (front ++ '/' :: word) = splitPath front ++ [word] := by
  have apart : ∀ mark, isWordChar mark = false → mark ∉ word :=
    fun mark isNone member => ne_of_isWordChar (isWord mark member) isNone rfl
  rw [splitPath_append, splitPath_of_whole (apart '/' (by decide)) (apart '\\' (by decide))]

/-- Whether a segment stands for where it is, or for the segment before it. -/
def IsPoints (segment : List Char) : Prop :=
  plainPoints segment = ['.'] ∨ plainPoints segment = ['.', '.']

theorem plainPoints_word {word : List Char} (isWord : ∀ char ∈ word, isWordChar char) :
    plainPoints word = word := by
  induction word with
  | nil => rfl
  | cons char rest induction =>
      have others := induction fun char member => isWord char (List.mem_cons_of_mem _ member)
      have noPercent : char ≠ '%' :=
        ne_of_isWordChar (isWord char List.mem_cons_self) (by decide)
      rw [plainPoints, others]
      · intro _ equal
        exact absurd equal noPercent
      · intro _ equal
        exact absurd equal noPercent

theorem not_isPoints_word {word : List Char} (isWord : ∀ char ∈ word, isWordChar char) :
    ¬ IsPoints word := by
  have noPoint : '.' ∉ word :=
    fun member => ne_of_isWordChar (isWord '.' member) (by decide) rfl
  intro points
  rw [IsPoints, plainPoints_word isWord] at points
  rcases points with one | two
  · exact noPoint (one ▸ List.mem_cons_self)
  · exact noPoint (two ▸ List.mem_cons_self)

theorem walk_cons_plain {reached rest : List (List Char)} {segment : List Char}
    (plain : ¬ IsPoints segment) :
    walk reached (segment :: rest) =
      walk (reached ++ [escape isSetApartInPath segment]) rest := by
  rw [walk]
  split
  · rename_i two
    exact absurd (.inr two) plain
  · rename_i one
    exact absurd (.inl one) plain
  · rfl

/-- Behind a segment that is none of points, a word is one more segment. -/
theorem walk_concat (reached segments : List (List Char)) {word : List Char}
    (last : ∀ segment, segments.getLast? = some segment → ¬ IsPoints segment)
    (plain : ¬ IsPoints word) :
    walk reached (segments ++ [word]) =
      walk reached segments ++ [escape isSetApartInPath word] := by
  induction segments generalizing reached with
  | nil => rw [List.nil_append, walk_cons_plain plain, walk, walk]
  | cons segment rest induction =>
      cases rest with
      | nil =>
          have segmentPlain := last segment rfl
          rw [List.singleton_append, walk_cons_plain segmentPlain, walk_cons_plain plain,
            walk_cons_plain segmentPlain, walk, walk]
      | cons next others =>
          -- Neither here nor in the longer walk is this segment the last.
          have later := fun reached => induction reached last
          rw [List.cons_append, walk, walk]
          simp only [List.cons_append, List.isEmpty_cons] at later ⊢
          split <;> exact later _

theorem walk_points (reached front : List (List Char)) {last : List Char} (points : IsPoints last) :
    ∃ others, walk reached (front ++ [last]) = others ++ [[]] := by
  induction front generalizing reached with
  | nil =>
      rw [List.nil_append, walk]
      rcases points with one | two
      · rw [one]
        exact ⟨reached, rfl⟩
      · rw [two]
        exact ⟨reached.dropLast, rfl⟩
  | cons segment rest induction =>
      rw [List.cons_append, walk]
      split <;> exact induction _

theorem pathOf_concat (segments : List (List Char)) (last : List Char) :
    pathOf (segments ++ [last]) = pathOf segments ++ "/" ++ String.ofList last := by
  apply String.toList_inj.mp
  simp [pathOf]

theorem pathFrom_append_word {front word : List Char} (isWord : ∀ char ∈ word, isWordChar char)
    (ends : (pathFrom [] front).toList.getLast? ≠ some '/') :
    pathFrom [] (front ++ '/' :: word) = pathFrom [] front ++ "/" ++ String.ofList word := by
  have last : ∀ segment, (splitPath front).getLast? = some segment → ¬ IsPoints segment := by
    intro segment isLast points
    rcases List.getLast?_eq_some_iff.mp isLast with ⟨others, segments⟩
    rcases walk_points [] others points with ⟨walked, inside⟩
    apply ends
    rw [pathFrom, segments, inside, pathOf_concat]
    simp
  rw [pathFrom, splitPath_append_word front isWord,
    walk_concat [] _ last (not_isPoints_word isWord), pathOf_concat, escape_word isWord]
  rfl

/-! ## Whole addresses -/

theorem readAuthority_append_word {scheme : String} {text word : List Char} {url : Url}
    (isHost : isHostScheme scheme) (read : readAuthority scheme text = .ok url)
    (noFragment : '#' ∉ text) (noQuery : url.query = none)
    (ends : url.path.toList.getLast? ≠ some '/') (isWord : ∀ char ∈ word, isWordChar char) :
    readAuthority scheme (text ++ '/' :: word) =
      .ok { url with path := url.path ++ "/" ++ String.ofList word } := by
  rcases (readAuthority_eq_ok isHost).mp read with ⟨place, named, same⟩
  refine (readAuthority_eq_ok isHost).mpr ⟨place, ?_, ?_⟩
  · rw [authorityOf_append text (.inr rfl)]
    exact named
  have noFragmentBehind : '#' ∉ behindAuthority text :=
    fun member => noFragment ((List.dropWhile_suffix _).subset member)
  rw [behindAuthority_append text (.inr rfl), ← same]
  rw [← same] at noQuery ends
  generalize behindAuthority text = tail at noFragmentBehind noQuery ends ⊢
  dsimp only [ofPlace] at noQuery ends ⊢
  have noMark := plain_of_splitQuery noFragmentBehind (Option.map_eq_none_iff.mp noQuery)
  rw [splitQuery_of_plain noFragmentBehind noMark] at ends ⊢
  cases tail with
  | nil => exact absurd (by decide) ends
  | cons first rest =>
      have longer : splitQuery (first :: rest ++ '/' :: word) =
          (first :: rest ++ '/' :: word, none) := by
        have apart : ∀ other, isWordChar other = false → other ∉ word :=
          fun other isNone member => ne_of_isWordChar (isWord other member) isNone rfl
        refine splitQuery_of_plain (fun member => ?_) (fun member => ?_)
        · rcases List.mem_append.mp member with front | back
          · exact noFragmentBehind front
          · simp [apart '#' (by decide)] at back
        · rcases List.mem_append.mp member with front | back
          · exact noMark front
          · simp [apart '?' (by decide)] at back
      rw [longer]
      have path := pathFrom_append_word isWord ends
      simp only [List.cons_append, List.drop_succ_cons, List.drop_zero] at path ⊢
      rw [path]

theorem mem_of_mem_significant {text : String} {char : Char} (member : char ∈ significant text) :
    char ∈ text.toList := by
  unfold significant at member
  have inMiddle := List.mem_reverse.mp (List.mem_filter.mp member).1
  have inTail := List.mem_reverse.mp ((List.dropWhile_suffix _).subset inMiddle)
  exact (List.dropWhile_suffix _).subset inTail

theorem readScheme_append_word {scheme : String} {text word : List Char} {url : Url}
    (isHost : isHostScheme scheme) (read : readScheme scheme text = .ok url)
    (noFragment : '#' ∉ text) (noQuery : url.query = none)
    (ends : url.path.toList.getLast? ≠ some '/') (isWord : ∀ char ∈ word, isWordChar char) :
    readScheme scheme (text ++ '/' :: word) =
      .ok { url with path := url.path ++ "/" ++ String.ofList word } := by
  unfold readScheme at read ⊢
  rw [if_pos isHost] at read ⊢
  rw [List.dropWhile_append]
  split
  · rename_i nothing
    rw [List.isEmpty_iff.mp nothing, readAuthority_nil isHost] at read
    cases read
  · have noFragmentBehind : '#' ∉ text.dropWhile (fun char => char = '/' || char = '\\') :=
      fun member => noFragment ((List.dropWhile_suffix _).subset member)
    exact readAuthority_append_word isHost read noFragmentBehind noQuery ends isWord

theorem parse_eq_ok {text : String} {url : Url} :
    parse text = .ok url ↔ ∃ scheme rest, splitScheme (significant text) = some (scheme, rest) ∧
      readScheme scheme rest = .ok url := by
  rw [parse]
  cases splitScheme (significant text) with
  | none =>
      constructor
      · exact fun read => by cases read
      · rintro ⟨_, _, split, -⟩
        cases split
  | some parts =>
      constructor
      · exact fun read => ⟨parts.1, parts.2, rfl, read⟩
      · rintro ⟨_, _, same, read⟩
        cases same
        exact read

/-- A word behind a slash lengthens the path of an address. -/
theorem parse_append_word {text word : String} {front : List Char} {last : Char} {url : Url}
    (parsed : parse text = .ok url) (isHost : isHostScheme url.scheme)
    (noFragment : '#' ∉ text.toList) (noQuery : url.query = none)
    (tight : text.toList = front ++ [last]) (counts : 0x20 < last.toNat)
    (ends : url.path.toList.getLast? ≠ some '/')
    (isWord : ∀ char ∈ word.toList, isWordChar char) :
    parse (text ++ ("/" ++ word)) = .ok { url with path := url.path ++ "/" ++ word } := by
  have longer : significant (text ++ ("/" ++ word)) = significant text ++ '/' :: word.toList := by
    have chars : ("/" ++ word).toList = '/' :: word.toList := by
      rw [String.toList_append]
      rfl
    rw [← chars]
    refine significant_append tight counts fun char member => ?_
    rw [chars] at member
    rcases List.mem_cons.mp member with slash | inWord
    · subst slash
      decide
    · have bounds := toNat_of_isWordChar (isWord char inWord)
      omega
  rcases parse_eq_ok.mp parsed with ⟨scheme, rest, split, read⟩
  refine parse_eq_ok.mpr ⟨scheme, rest ++ '/' :: word.toList, ?_, ?_⟩
  · rw [longer, splitScheme_append _ split]
  have sameScheme := readScheme_scheme read
  rw [sameScheme] at isHost
  have noFragmentBehind : '#' ∉ rest :=
    fun member => noFragment (mem_of_mem_significant (mem_of_splitScheme split member))
  have extended := readScheme_append_word isHost read noFragmentBehind noQuery ends isWord
  rw [String.ofList_toList] at extended
  exact extended

end FaultDrill.Url
