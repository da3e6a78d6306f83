import FaultDrill.Proofs.Url.Escaping

/-!
Walks along the segments of a path. A walk can be taken in two parts, and one that
never climbs above the place where it starts leaves alone what lies above that place.
-/

namespace FaultDrill.Url

instance (segment : List Char) : Decidable (IsPoints segment) := inferInstanceAs (Decidable (_ ∨ _))

/-! ## One step after the other -/

/-- The segments reached by one more step. -/
def step (reached : List (List Char)) (segment : List Char) : List (List Char) :=
  if plainPoints segment = ['.', '.'] then reached.dropLast
  else if plainPoints segment = ['.'] then reached
  else reached ++ [escape isSetApartInPath segment]

theorem step_of_two {segment : List Char} (two : plainPoints segment = ['.', '.'])
    (reached : List (List Char)) : step reached segment = reached.dropLast := if_pos two

theorem step_of_one {segment : List Char} (one : plainPoints segment = ['.'])
    (reached : List (List Char)) : step reached segment = reached := by
  rw [step, one]
  rfl

theorem step_of_plain {segment : List Char} (plain : ¬ IsPoints segment)
    (reached : List (List Char)) :
    step reached segment = reached ++ [escape isSetApartInPath segment] := by
  rw [IsPoints, not_or] at plain
  rw [step, if_neg plain.2, if_neg plain.1]

/-- The segments reached by a walk that goes on, so that points at its end say only
where to go. -/
def pass (reached segments : List (List Char)) : List (List Char) := segments.foldl step reached

theorem pass_append (reached front back : List (List Char)) :
    pass reached (front ++ back) = pass (pass reached front) back := List.foldl_append

/-- Points at the end of a walk lead into the segment that it has reached. -/
def ending (segments : List (List Char)) : List (List Char) :=
  if segments.getLast?.any (IsPoints ·) then [[]] else []

theorem ending_append (front : List (List Char)) {back : List (List Char)} (goesOn : back ≠ []) :
    ending (front ++ back) = ending back := by
  rcases List.eq_nil_or_concat back with none | ⟨others, last, some⟩
  · exact absurd none goesOn
  · simp [ending, some]

theorem walk_eq (reached segments : List (List Char)) :
    walk reached segments = pass reached segments ++ ending segments := by
  induction segments generalizing reached with
  | nil => simp [walk, pass, ending]
  | cons segment rest induction =>
      cases rest with
      | nil =>
          rw [pass, List.foldl_cons, List.foldl_nil]
          by_cases points : IsPoints segment
          · rcases points with one | two
            · simp [walk, ending, step_of_one one, IsPoints, one]
            · simp [walk, ending, step_of_two two, IsPoints, two]
          · rw [walk_cons_plain points, walk]
            simp [ending, step_of_plain points, points]
      | cons next others =>
          have later : ending (segment :: next :: others) = ending (next :: others) :=
            ending_append [segment] (List.cons_ne_nil _ _)
          rw [later, pass, List.foldl_cons, ← pass, ← induction]
          by_cases points : IsPoints segment
          · rcases points with one | two
            · rw [walk, one, step_of_one one]
              simp
            · rw [walk, two, step_of_two two]
              simp
          · rw [walk_cons_plain points, step_of_plain points]

theorem walk_append (reached front : List (List Char)) {back : List (List Char)}
    (goesOn : back ≠ []) : walk reached (front ++ back) = walk (pass reached front) back := by
  rw [walk_eq, walk_eq, pass_append, ending_append front goesOn]

/-! ## Walks that do not climb -/

/-- Whether a walk climbs above the place so many segments above its start. -/
def climbs (depth : Nat) : List (List Char) → Bool
  | [] => false
  | segment :: rest =>
      if plainPoints segment = ['.', '.'] then depth = 0 || climbs (depth - 1) rest
      else if plainPoints segment = ['.'] then climbs depth rest
      else climbs (depth + 1) rest

theorem pass_of_not_climbs (above : List (List Char)) {inner segments : List (List Char)}
    (stays : climbs inner.length segments = false) :
    pass (above ++ inner) segments = above ++ pass inner segments := by
  induction segments generalizing inner with
  | nil => rfl
  | cons segment rest induction =>
      have goesOn : step (above ++ inner) segment = above ++ step inner segment ∧
          climbs (step inner segment).length rest = false := by
        by_cases points : IsPoints segment
        · rcases points with one | two
          · rw [step_of_one one, step_of_one one]
            rw [climbs, one] at stays
            exact ⟨rfl, stays⟩
          · rw [climbs, if_pos two, Bool.or_eq_false_iff, decide_eq_false_iff_not] at stays
            have below : inner ≠ [] := fun none => stays.1 (by rw [none]; rfl)
            rw [step_of_two two, step_of_two two, List.dropLast_append_of_ne_nil below,
              List.length_dropLast]
            exact ⟨rfl, stays.2⟩
        · have plain := not_or.mp points
          rw [climbs, if_neg plain.2, if_neg plain.1] at stays
          rw [step_of_plain points, step_of_plain points, List.append_assoc, List.length_append]
          exact ⟨rfl, stays⟩
      rw [pass, pass, List.foldl_cons, List.foldl_cons, goesOn.1, ← pass, ← pass]
      exact induction goesOn.2

theorem walk_of_not_climbs (above : List (List Char)) {inner segments : List (List Char)}
    (stays : climbs inner.length segments = false) :
    walk (above ++ inner) segments = above ++ walk inner segments := by
  rw [walk_eq, walk_eq, pass_of_not_climbs above stays, List.append_assoc]

example : climbs 0 (splitPath "a/../b/%2E%2e/..".toList) = true := by decide +kernel

/-! ## What a walk is made of -/

theorem mem_of_pass {reached segments : List (List Char)} {index : Nat} {segment : List Char}
    (found : (pass reached segments)[index]? = some segment) :
    reached[index]? = some segment ∨
      ∃ told ∈ segments, ¬ IsPoints told ∧ segment = escape isSetApartInPath told := by
  induction segments generalizing reached with
  | nil => exact .inl found
  | cons first rest induction =>
      rw [pass, List.foldl_cons, ← pass] at found
      rcases induction found with early | ⟨told, among, plain, escaped⟩
      · by_cases points : IsPoints first
        · rcases points with one | two
          · rw [step_of_one one] at early
            exact .inl early
          · rw [step_of_two two, List.getElem?_dropLast] at early
            split at early
            · exact .inl early
            · cases early
        · rw [step_of_plain points] at early
          rcases lt_or_ge index reached.length with before | behind
          · rw [List.getElem?_append_left before] at early
            exact .inl early
          · rw [List.getElem?_append_right behind, List.getElem?_singleton] at early
            split at early
            · exact .inr ⟨first, List.mem_cons_self, points, (Option.some.inj early).symm⟩
            · cases early
      · exact .inr ⟨told, List.mem_cons_of_mem _ among, plain, escaped⟩

/-- Beyond the segments that a walk starts from there are only segments that it was
told, and an empty one where it ends in points. -/
theorem mem_of_walk {reached segments : List (List Char)} {index : Nat} {segment : List Char}
    (beyond : reached.length ≤ index) (found : (walk reached segments)[index]? = some segment) :
    segment = [] ∨ ∃ told ∈ segments, ¬ IsPoints told ∧ segment = escape isSetApartInPath told := by
  rw [walk_eq] at found
  rcases lt_or_ge index (pass reached segments).length with before | behind
  · rw [List.getElem?_append_left before] at found
    rcases mem_of_pass found with early | told
    · rw [List.getElem?_eq_none beyond] at early
      cases early
    · exact .inr told
  · rw [List.getElem?_append_right behind] at found
    have member := List.mem_of_getElem? found
    rw [ending] at member
    split at member
    · exact .inl (List.mem_singleton.mp member)
    · cases member

/-! ## Segments in texts -/

/-- A segment of a text is told in the text, in order, and holds no slash of either kind. -/
theorem mem_splitPath {text segment : List Char} (member : segment ∈ splitPath text) :
    segment.Sublist text ∧ '/' ∉ segment ∧ '\\' ∉ segment := by
  induction text generalizing segment with
  | nil =>
      rw [List.mem_singleton.mp member]
      simp
  | cons char rest induction =>
      unfold splitPath at member induction
      rw [List.map_cons, Text.splitAt] at member
      cases parts : Text.splitAt '/' (rest.map fun char => if char = '\\' then '/' else char) with
      | nil => exact absurd parts (Text.splitAt_ne_nil _ _)
      | cons part others =>
          rw [parts] at member induction
          dsimp only at member
          by_cases isSlash : char = '\\' ∨ char = '/'
          · have straight : (if char = '\\' then '/' else char) = '/' := by
              rcases isSlash with backslash | slash
              · exact if_pos backslash
              · rw [slash]
                rfl
            rw [if_pos straight] at member
            rcases List.mem_cons.mp member with empty | later
            · rw [empty]
              simp
            · exact (induction later).imp_left fun within => within.cons char
          · rw [not_or] at isSlash
            rw [if_neg isSlash.1, if_neg isSlash.2] at member
            rcases List.mem_cons.mp member with first | later
            · rcases induction List.mem_cons_self with ⟨within, noSlash, noBackslash⟩
              rw [first]
              refine ⟨within.cons_cons char, ?_, ?_⟩
              · exact List.not_mem_cons_of_ne_of_not_mem (Ne.symm isSlash.2) noSlash
              · exact List.not_mem_cons_of_ne_of_not_mem (Ne.symm isSlash.1) noBackslash
            · exact (induction (List.mem_cons_of_mem _ later)).imp_left fun within => within.cons char

theorem slash_notMem_of_pass {reached : List (List Char)}
    (whole : ∀ segment ∈ reached, '/' ∉ segment) {path segment : List Char}
    (member : segment ∈ pass reached (splitPath path)) :
    '/' ∉ segment := by
  rcases List.mem_iff_getElem?.mp member with ⟨index, found⟩
  rcases mem_of_pass found with early | ⟨told, among, -, escaped⟩
  · exact whole segment (List.mem_of_getElem? early)
  · rw [escaped]
    exact slash_notMem_escape (mem_splitPath among).2.1

theorem slash_notMem_of_walk {reached : List (List Char)}
    (whole : ∀ segment ∈ reached, '/' ∉ segment) {path segment : List Char}
    (member : segment ∈ walk reached (splitPath path)) :
    '/' ∉ segment := by
  rw [walk_eq] at member
  rcases List.mem_append.mp member with passed | last
  · exact slash_notMem_of_pass whole passed
  · rw [ending] at last
    split at last
    · rw [List.mem_singleton.mp last]
      exact List.not_mem_nil
    · cases last

/-- The segments of a path can be read off it. -/
theorem splitAt_pathOf {segments : List (List Char)} (whole : ∀ segment ∈ segments, '/' ∉ segment)
    (front : List Char) (noSlash : '/' ∉ front) :
    Text.splitAt '/' (front ++ (pathOf segments).toList) = front :: segments := by
  induction segments generalizing front with
  | nil => simp [pathOf, Text.splitAt_of_notMem noSlash]
  | cons segment rest induction =>
      have inside : (pathOf (segment :: rest)).toList = '/' :: (segment ++ (pathOf rest).toList) := by
        simp [pathOf]
      have later := induction (fun other among => whole other (List.mem_cons_of_mem _ among)) segment
        (whole segment List.mem_cons_self)
      rw [inside, Text.splitAt_append, Text.splitAt_of_notMem noSlash, later]
      rfl

end FaultDrill.Url
