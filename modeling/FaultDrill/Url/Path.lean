import FaultDrill.Text.Reader
import FaultDrill.Url.Escape

/-!
Paths are lists of segments. A segment of one point stands for where it is, one
of two points for the segment before it; an escaped point counts like a point.
-/

namespace FaultDrill.Url

/-- Splits at slashes, and at backslashes too. -/
def splitPath (text : List Char) : List (List Char) :=
  Text.splitAt '/' (text.map fun char => if char = '\\' then '/' else char)

/-- The segment with escaped points written out, in lower case. -/
def plainPoints : List Char → List Char
  | '%' :: '2' :: 'e' :: rest | '%' :: '2' :: 'E' :: rest => '.' :: plainPoints rest
  | char :: rest => char :: plainPoints rest
  | [] => []

/-- The segments after walking along more of them. A walk that ends with points
ends inside the segment it has reached. -/
def walk (reached : List (List Char)) : List (List Char) → List (List Char)
  | [] => reached
  | segment :: rest =>
      let isLast := rest.isEmpty
      match plainPoints segment with
      | ['.', '.'] => walk (reached.dropLast ++ if isLast then [[]] else []) rest
      | ['.'] => walk (reached ++ if isLast then [[]] else []) rest
      | _ => walk (reached ++ [escape isSetApartInPath segment]) rest

/-- A path from its segments. -/
def pathOf (segments : List (List Char)) : String :=
  String.ofList (segments.flatMap fun segment => '/' :: segment)

example : pathOf (walk [] (splitPath "a/../b c/.".toList)) = "/b%20c/" := by decide +kernel

/-- The segments of a path that starts with a slash. -/
def segmentsOf (path : String) : List (List Char) :=
  (Text.splitAt '/' path.toList).drop 1

end FaultDrill.Url
