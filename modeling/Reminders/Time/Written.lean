import Reminders.Text.Digits
import Reminders.Time.Civil
import Reminders.Time.Instant

/-!
# Time — written instants

An instant is written as date, time of day and the zone `Z`.  The fraction of a second has 0, 3, 6
or 9 digits, the fewest that are exact; a year of 0 to 9999 has four digits, any other a sign and
at least four.  A leap second is second 60.

Reading is more tolerant: blank characters may stand before every number, before the marks of date
and time and before the zone; the date and the time are separated by `T`, `t` or one space; the
zone is `Z`, `UTC` or an offset in hours and minutes.  The fields must name a date of the calendar
and a time of the day, and both the local time and its instant must lie in the span of instants.
-/

namespace Reminders.Instant

open Text

/-! ### Writing -/

/-- A year: four digits from 0 to 9999, else a sign and at least four digits. -/
def writeYear (year : Int) : List Char :=
  if year < 0 then '-' :: padded 4 year.natAbs
  else if year ≤ 9999 then padded 4 year.toNat
  else '+' :: padded 5 year.toNat

/-- The fraction of a second, with the fewest of 0, 3, 6 or 9 digits that are exact. -/
def writeFraction (nanos : Nat) : List Char :=
  if nanos = 0 then []
  else if nanos % 1000000 = 0 then '.' :: padded 3 (nanos / 1000000)
  else if nanos % 1000 = 0 then '.' :: padded 6 (nanos / 1000)
  else '.' :: padded 9 nanos

/-- The date of an instant. -/
def date (t : Instant) : Date :=
  Date.ofDay (t.unixSecond / 86400)

/-- Date and time of day, with the given mark between them. -/
def writeFields (mark : Char) (t : Instant) : List Char :=
  let date := t.date
  let second := (t.unixSecond % 86400).toNat
  let nano := t.nanosecond.toNat
  let leap := nano / 1000000000
  writeYear date.year ++ '-' :: padded 2 date.month ++ '-' :: padded 2 date.day ++
    mark :: padded 2 (second / 3600) ++ ':' :: padded 2 (second / 60 % 60) ++
    ':' :: padded 2 (second % 60 + leap) ++ writeFraction (nano % 1000000000)

/-- The characters of the written form. -/
def writeChars (t : Instant) : List Char :=
  writeFields 'T' t ++ ['Z']

/-- The written form, as in `2026-03-01T10:00:00.500Z`. -/
def write (t : Instant) : String :=
  String.ofList t.writeChars

/-- The form used in messages, as in `2026-03-01 10:00:00.500 UTC`. -/
def display (t : Instant) : String :=
  String.ofList (writeFields ' ' t) ++ " UTC"

/-! ### Reading -/

/-- Takes one expected character after blanks. -/
def readMark (mark : Char) (cs : List Char) : Option (List Char) :=
  match skipBlanks cs with
  | c :: rest => if c = mark then some rest else none
  | [] => none

/-- Takes a number of at most `limit` digits after blanks. -/
def readField (limit : Nat) (cs : List Char) : Option (Nat × List Char) :=
  readNat limit (skipBlanks cs)

/-- Takes a year: up to four digits, or a sign and any number of digits. -/
def readYear (cs : List Char) : Option (Int × List Char) :=
  match skipBlanks cs with
  | '-' :: rest => (readNat rest.length rest).map fun (n, r) => (-(n : Int), r)
  | '+' :: rest => (readNat rest.length rest).map fun (n, r) => ((n : Int), r)
  | cs => (readNat 4 cs).map fun (n, r) => ((n : Int), r)

/-- Takes the fraction of a second, if there is one; digits after the ninth are dropped. -/
def readFraction (cs : List Char) : Option (Nat × List Char) :=
  match cs with
  | '.' :: rest => do
    let (value, after) ← readNat 9 rest
    let used := rest.length - after.length
    return (value * Nat.pow 10 (9 - used), after.dropWhile Char.isDigit)
  | cs => some (0, cs)

/-- The character separates the parts of an offset. -/
def isOffsetMark (c : Char) : Bool :=
  c == ':' || isBlankChar c

/-- Takes two digits. -/
def readTwoDigits (cs : List Char) : Option (Nat × List Char) :=
  match cs with
  | a :: b :: rest =>
    if a.isDigit && b.isDigit then some (Nat.ofDigitChars 10 [a, b] 0, rest) else none
  | _ => none

/-- Takes the hours and minutes of an offset, in seconds. -/
def readOffset (cs : List Char) : Option (Nat × List Char) := do
  let (hours, rest) ← readTwoDigits cs
  let (minutes, rest) ← readTwoDigits (rest.dropWhile isOffsetMark)
  if minutes < 60 && hours < 24 then some (hours * 3600 + minutes * 60, rest) else none

/-- Takes the zone: its distance to Coordinated Universal Time in seconds. -/
def readZone (cs : List Char) : Option (Int × List Char) :=
  match cs with
  | 'Z' :: rest | 'z' :: rest => some (0, rest)
  | '+' :: rest => (readOffset rest).map fun (n, r) => ((n : Int), r)
  | '-' :: rest | '\u2212' :: rest => (readOffset rest).map fun (n, r) => (-(n : Int), r)
  | u :: t :: c :: rest =>
    if u.toUpper = 'U' ∧ t.toUpper = 'T' ∧ c.toUpper = 'C' then some (0, rest) else none
  | _ => none

/-- The instant of a date and a time of day in a zone. -/
def ofFields? (date : Date) (hour minute second nanos : Nat) (offset : Int) : Option Instant :=
  if date.isValid && hour < 24 && minute < 60 && second ≤ 60 then
    let leap := second / 60
    let localSecond := date.toDay * 86400 + hour * 3600 + minute * 60 + (second - leap : Nat)
    let nano : Int := leap * 1000000000 + nanos
    if (ofUnix? localSecond nano).isSome then ofUnix? (localSecond - offset) nano else none
  else none

/-- The instant of a written form. -/
def readChars? (cs : List Char) : Option Instant := do
  let (year, cs) ← readYear cs
  let cs ← readMark '-' cs
  let (month, cs) ← readField 2 cs
  let cs ← readMark '-' cs
  let (day, cs) ← readField 2 cs
  let cs ← match cs with
    | 'T' :: rest | 't' :: rest | ' ' :: rest => some rest
    | _ => none
  let (hour, cs) ← readField 2 cs
  let cs ← readMark ':' cs
  let (minute, cs) ← readField 2 cs
  let cs ← readMark ':' cs
  let (second, cs) ← readField 2 cs
  let (nanos, cs) ← readFraction cs
  let (offset, cs) ← readZone (skipBlanks cs)
  if (skipBlanks cs).isEmpty then ofFields? ⟨year, month, day⟩ hour minute second nanos offset
  else none

/-- The instant that a text names. -/
def read? (s : String) : Option Instant :=
  readChars? s.toList

end Reminders.Instant
