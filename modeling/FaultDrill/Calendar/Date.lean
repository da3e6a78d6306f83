/-!
Days of the Gregorian calendar, extended backwards without limit to its start.
-/

namespace FaultDrill

structure Date where
  year : Int
  month : Nat
  day : Nat
  deriving Repr, DecidableEq

namespace Date

def isLeapYear (year : Int) : Bool :=
  year % 4 = 0 && (year % 100 ≠ 0 || year % 400 = 0)

/-- The days of a month; there is no month but the first to the twelfth. -/
def daysInMonth (year : Int) (month : Nat) : Nat :=
  match month with
  | 1 | 3 | 5 | 7 | 8 | 10 | 12 => 31
  | 4 | 6 | 9 | 11 => 30
  | 2 => if isLeapYear year then 29 else 28
  | _ => 0

example : daysInMonth 1900 2 = 28 ∧ daysInMonth 2000 2 = 29 := by decide

/-- Dates are kept for about 262 thousand years in either direction. -/
def inRange (date : Date) : Bool :=
  -262143 ≤ date.year && date.year ≤ 262142

/-- The date of three numbers, if there is such a day. -/
def ofParts? (year : Int) (month day : Nat) : Option Date :=
  let date : Date := ⟨year, month, day⟩
  if 1 ≤ day && day ≤ daysInMonth year month && date.inRange then some date else none

def next (date : Date) : Date :=
  if date.day < daysInMonth date.year date.month then { date with day := date.day + 1 }
  else if date.month < 12 then ⟨date.year, date.month + 1, 1⟩
  else ⟨date.year + 1, 1, 1⟩

def previous (date : Date) : Date :=
  if 1 < date.day then { date with day := date.day - 1 }
  else if 1 < date.month then
    ⟨date.year, date.month - 1, daysInMonth date.year (date.month - 1)⟩
  else ⟨date.year - 1, 12, 31⟩

example : next ⟨2024, 2, 28⟩ = ⟨2024, 2, 29⟩ := by decide
example : previous ⟨2024, 1, 1⟩ = ⟨2023, 12, 31⟩ := by decide

/-- The days from the first of January of the year zero to a date. -/
def number (date : Date) : Int :=
  let years := date.year
  let leapDays := (years + 3) / 4 - (years + 99) / 100 + (years + 399) / 400
  let earlierMonths : Nat := (List.range (date.month - 1)).foldl
    (fun days index => days + daysInMonth years (index + 1)) 0
  years * 365 + leapDays + earlierMonths + date.day - 1

example : number ⟨2000, 3, 1⟩ - number ⟨2000, 2, 28⟩ = 2 := by decide
example : number ⟨1, 1, 1⟩ - number ⟨0, 1, 1⟩ = 366 := by decide

end Date

end FaultDrill
