import FaultDrill.Calendar.Instant
import FaultDrill.Text.Blank
import FaultDrill.Text.Reader

/-!
The date and time text of data files: `2026-05-04T09:15:42.5Z`. Writing uses the
fewest of three, six or nine digits that hold the fraction, and none for a whole
second. Reading is more generous: blanks may stand between the parts, the year
may have a sign, any offset of less than a day is taken into account, and digits
beyond the nanosecond are dropped.
-/

namespace FaultDrill.Instant

/-! Writing -/

/-- Four digits for the years a calendar on paper has, a sign and at least four
for others. -/
def yearText (year : Int) : String :=
  if 0 ≤ year && year ≤ 9999 then Text.padded 4 year.natAbs
  else (if year < 0 then "-" else "+") ++ Text.padded 4 year.natAbs

/-- The second as a clock shows it, 60 in a leap second. -/
def clockSecond (instant : Instant) : Nat :=
  instant.second % 60 + (if instant.inLeapSecond then 1 else 0)

def dateText (separator : String) (instant : Instant) : String :=
  let date := instant.date
  yearText date.year ++ separator ++ Text.padded 2 date.month ++ separator ++ Text.padded 2 date.day

def timeText (separator : String) (instant : Instant) : String :=
  Text.padded 2 (instant.second / 3600) ++ separator ++
    Text.padded 2 (instant.second / 60 % 60) ++ separator ++ Text.padded 2 instant.clockSecond

def fractionText (instant : Instant) : String :=
  let nanosecond := instant.nanosecond % 1000000000
  if nanosecond = 0 then ""
  else if nanosecond % 1000000 = 0 then "." ++ Text.padded 3 (nanosecond / 1000000)
  else if nanosecond % 1000 = 0 then "." ++ Text.padded 6 (nanosecond / 1000)
  else "." ++ Text.padded 9 nanosecond

def toRfc3339 (instant : Instant) : String :=
  instant.dateText "-" ++ "T" ++ instant.timeText ":" ++ instant.fractionText ++ "Z"

/-! Reading -/

def skipBlanks (text : List Char) : List Char := text.dropWhile Text.isBlank

/-- A number of one to `width` digits after blanks. -/
def readNumber (width : Nat) (text : List Char) : Option (Nat × List Char) :=
  match Text.takeDigits width (skipBlanks text) with
  | ([], _) => none
  | (digits, rest) => some (Text.decimalValue digits, rest)

/-- A year of up to four digits, or of any length behind a sign. -/
def readYear (text : List Char) : Option (Int × List Char) :=
  match skipBlanks text with
  | '-' :: rest => (readSigned rest).map fun (year, rest) => (-(year : Int), rest)
  | '+' :: rest => (readSigned rest).map fun (year, rest) => ((year : Int), rest)
  | rest => (readNumber 4 rest).map fun (year, rest) => ((year : Int), rest)
where
  readSigned (rest : List Char) : Option (Nat × List Char) :=
    match Text.takeDigits rest.length rest with
    | ([], _) => none
    | (digits, rest) => some (Text.decimalValue digits, rest)

def readMark (mark : Char) (text : List Char) : Option (List Char) :=
  Text.after? [mark] (skipBlanks text)

/-- The fraction of a second in nanoseconds, zero if there is no point. -/
def readFraction (text : List Char) : Option (Nat × List Char) :=
  match text with
  | '.' :: rest =>
      match Text.takeDigits 9 rest with
      | ([], _) => none
      | (digits, rest) =>
          some (Text.decimalValue digits * Nat.pow 10 (9 - digits.length), rest.dropWhile Char.isDigit)
  | _ => some (0, text)

def lowerAscii (text : List Char) : List Char := text.map Char.toLower

/-- Seconds by which the local time is ahead of universal time. -/
def readOffset (text : List Char) : Option (Int × List Char) := do
  match text with
  | 'Z' :: rest => some (0, rest)
  | 'z' :: rest => some (0, rest)
  | _ =>
      if lowerAscii (text.take 3) = ['u', 't', 'c'] then some (0, text.drop 3)
      else
        let (sign, rest) ← match text with
          | '+' :: rest => some ((1 : Int), rest)
          | '-' :: rest => some (-1, rest)
          | '−' :: rest => some (-1, rest)
          | _ => none
        let (hours, rest) ← readPair rest
        let (minutes, rest) ← readPair (rest.dropWhile fun char => char = ':' || Text.isBlank char)
        if minutes < 60 && hours < 24 then some (sign * (hours * 3600 + minutes * 60 : Nat), rest)
        else none
where
  readPair (text : List Char) : Option (Nat × List Char) :=
    match Text.takeDigits 2 text with
    | (digits, rest) =>
        if digits.length = 2 then some (Text.decimalValue digits, rest) else none

/-- Reads an instant and moves it to universal time. -/
def ofRfc3339? (text : String) : Option Instant := do
  let (year, rest) ← readYear text.toList
  let (month, rest) ← readNumber 2 (← readMark '-' rest)
  let (day, rest) ← readNumber 2 (← readMark '-' rest)
  let rest ← match rest with
    | 'T' :: rest => some rest
    | 't' :: rest => some rest
    | ' ' :: rest => some rest
    | _ => none
  let (hour, rest) ← readNumber 2 rest
  let (minute, rest) ← readNumber 2 (← readMark ':' rest)
  let (second, rest) ← readNumber 2 (← readMark ':' rest)
  let (fraction, rest) ← readFraction rest
  let (ahead, rest) ← readOffset (skipBlanks rest)
  let date ← Date.ofParts? year month day
  if hour < 24 && minute < 60 && second ≤ 60 && (skipBlanks rest).isEmpty then
    let time := hour * 3600 + minute * 60
    let localTime : Instant :=
      if second = 60 then ⟨date, time + 59, fraction + 1000000000⟩
      else ⟨date, time + second, fraction⟩
    let instant := localTime.atOffset ahead
    if instant.date.inRange then some instant else none
  else none

end FaultDrill.Instant
