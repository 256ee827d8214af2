import ImageCompose.Json.Decode
import ImageCompose.Text.Basic

/-!
# Points in time

A `Timestamp` is an instant in UTC with nanoseconds. It is read from the lenient form of RFC 3339
(`Timestamp.parse?`: blanks between the parts, `T` or a blank between date and time, any offset) and
written strictly (`Timestamp.render`: `Z`, and no, three, six or nine digits of a second). In JSON
it stands as a string in that form.
-/

namespace ImageCompose

/-- An instant in UTC. -/
structure Timestamp where
  /-- Days since 1970-01-01. -/
  day : Int
  /-- Seconds of the day, from 0 to 86399. -/
  second : Nat
  /-- Nanoseconds of the second; 10⁹ and more in a leap second. -/
  nanosecond : Nat
  deriving DecidableEq

namespace Timestamp

/-- Days from 1970-01-01 to a date of the Gregorian calendar. Years start in March here, so that
the leap day is the last one. -/
def dayOfDate (year : Int) (month day : Nat) : Int :=
  let y := if month ≤ 2 then year - 1 else year
  let era := y.fdiv 400
  let yearOfEra := y - era * 400
  let dayOfYear := (153 * ((month + 9) % 12) + 2) / 5 + day - 1
  let dayOfEra := yearOfEra * 365 + yearOfEra.fdiv 4 - yearOfEra.fdiv 100 + dayOfYear
  era * 146097 + dayOfEra - 719468

/-- The year, month and day of a number of days since 1970-01-01. -/
def dateOfDay (days : Int) : Int × Nat × Nat :=
  let z := days + 719468
  let era := z.fdiv 146097
  let dayOfEra := (z - era * 146097).toNat
  let yearOfEra := (dayOfEra - dayOfEra / 1460 + dayOfEra / 36524 - dayOfEra / 146096) / 365
  let dayOfYear := dayOfEra - (365 * yearOfEra + yearOfEra / 4 - yearOfEra / 100)
  let shifted := (5 * dayOfYear + 2) / 153
  let day := dayOfYear - (153 * shifted + 2) / 5 + 1
  let month := if shifted < 10 then shifted + 3 else shifted - 9
  let year := yearOfEra + era * 400
  (if month ≤ 2 then year + 1 else year, month, day)

/-- Whether a year has 366 days. -/
def isLeapYear (year : Int) : Bool :=
  year % 4 == 0 && (year % 100 != 0 || year % 400 == 0)

/-- The number of days of a month. -/
def daysOfMonth (year : Int) (month : Nat) : Nat :=
  if month = 2 then if isLeapYear year then 29 else 28
  else if month = 4 ∨ month = 6 ∨ month = 9 ∨ month = 11 then 30
  else 31

/-- The first and the last day that an instant may lie on: the years −262143 and 262142. -/
def firstDay : Int := dayOfDate (-262143) 1 1

/-- See `firstDay`. -/
def lastDay : Int := dayOfDate 262142 12 31

/-- Digits, at least one and at most `most`, at the start of a text, and what follows them. -/
def number? (most : Nat) (cs : List Char) : Option (Nat × List Char) :=
  let ds := (cs.take most).takeWhile Char.isDigit
  (Text.natural? 10 ds).map (·, cs.drop ds.length)

/-- A field of digits after optional blanks. -/
def field? (most : Nat) (cs : List Char) : Option (Nat × List Char) :=
  number? most (Text.dropBlanks cs)

/-- A year after optional blanks: up to four digits, or any number of them after a sign. -/
def year? (cs : List Char) : Option (Int × List Char) :=
  match Text.dropBlanks cs with
  | '-' :: rest => (number? rest.length rest).map fun (n, r) => (-(n : Int), r)
  | '+' :: rest => (number? rest.length rest).map fun (n, r) => ((n : Int), r)
  | rest => (number? 4 rest).map fun (n, r) => ((n : Int), r)

/-- One given character after optional blanks. -/
def mark? (c : Char) (cs : List Char) : Option (List Char) :=
  match Text.dropBlanks cs with
  | d :: rest => if d = c then some rest else none
  | [] => none

/-- The nanoseconds of an optional decimal fraction; digits after the ninth are dropped. -/
def fraction? : List Char → Option (Nat × List Char)
  | '.' :: rest =>
    let ds := rest.takeWhile Char.isDigit
    let kept := ds.take 9
    (Text.natural? 10 kept).map fun n => (n * Nat.pow 10 (9 - kept.length), rest.drop ds.length)
  | cs => some (0, cs)

/-- Two digits, whatever their value. -/
def twoDigits? : List Char → Option (Nat × List Char)
  | a :: b :: rest => (Text.natural? 10 [a, b]).map (·, rest)
  | _ => none

/-- The offset from UTC in seconds at the end of a text: `Z`, `UTC`, or a sign, hours and minutes
with optional colons and blanks between them. -/
def offset? (cs : List Char) : Option (Int × List Char) :=
  let signed (sign : Int) (rest : List Char) : Option (Int × List Char) := do
    let (hours, rest) ← twoDigits? rest
    let (minutes, rest) ← twoDigits? (rest.dropWhile fun c => c == ':' || Text.isBlank c)
    if minutes < 60 then some (sign * (hours * 3600 + minutes * 60 : Nat), rest) else none
  match cs with
  | 'z' :: rest | 'Z' :: rest => some (0, rest)
  | '+' :: rest => signed 1 rest
  | '-' :: rest | '−' :: rest => signed (-1) rest
  | _ =>
    if (cs.take 3).map Char.toUpper = ['U', 'T', 'C'] then some (0, cs.drop 3) else none

/-- Reads an instant in the lenient form of RFC 3339. -/
def parse? (s : String) : Option Timestamp := do
  let (year, cs) ← year? s.toList
  let (month, cs) ← field? 2 (← mark? '-' cs)
  let (day, cs) ← field? 2 (← mark? '-' cs)
  let cs ← match cs with
    | 't' :: rest | 'T' :: rest | ' ' :: rest => some rest
    | _ => none
  let (hour, cs) ← field? 2 cs
  let (minute, cs) ← field? 2 (← mark? ':' cs)
  let (second, cs) ← field? 2 (← mark? ':' cs)
  let (nanosecond, cs) ← fraction? cs
  let (offset, cs) ← offset? (Text.dropBlanks cs)
  let leap := second = 60
  guard (Text.dropBlanks cs = [] ∧ -262143 ≤ year ∧ year ≤ 262142 ∧
    1 ≤ month ∧ month ≤ 12 ∧ 1 ≤ day ∧ day ≤ daysOfMonth year month ∧
    hour ≤ 23 ∧ minute ≤ 59 ∧ second ≤ 60 ∧ offset.natAbs < 86400)
  let seconds := hour * 3600 + minute * 60 + (if leap then 59 else second)
  let total : Int := dayOfDate year month day * 86400 + seconds - offset
  let utcDay := total.fdiv 86400
  guard (firstDay ≤ utcDay ∧ utcDay ≤ lastDay)
  return { day := utcDay, second := (total - utcDay * 86400).toNat,
           nanosecond := nanosecond + (if leap then 1000000000 else 0) }

/-- The instant a number of seconds after 1970. -/
def ofSeconds (seconds : Nat) : Timestamp :=
  { day := seconds / 86400, second := seconds % 86400, nanosecond := 0 }

/-- A year in four digits; one before 0 or after 9999 has a sign in front. -/
def renderYear (year : Int) : String :=
  if 0 ≤ year ∧ year ≤ 9999 then Text.padded 4 year.toNat
  else (if year < 0 then "-" else "+") ++ Text.padded 4 year.natAbs

/-- The decimal digits of a second: none, three, six or nine, as few as needed. -/
def renderFraction (nanosecond : Nat) : String :=
  if nanosecond = 0 then ""
  else if nanosecond % 1000000 = 0 then "." ++ Text.padded 3 (nanosecond / 1000000)
  else if nanosecond % 1000 = 0 then "." ++ Text.padded 6 (nanosecond / 1000)
  else "." ++ Text.padded 9 nanosecond

/-- The written form of an instant. -/
def render (t : Timestamp) : String :=
  let (year, month, day) := dateOfDay t.day
  let leap := decide (1000000000 ≤ t.nanosecond)
  let second := t.second % 60 + (if leap then 1 else 0)
  renderYear year ++ "-" ++ Text.padded 2 month ++ "-" ++ Text.padded 2 day ++ "T" ++
    Text.padded 2 (t.second / 3600) ++ ":" ++ Text.padded 2 (t.second / 60 % 60) ++ ":" ++
    Text.padded 2 second ++ renderFraction (t.nanosecond % 1000000000) ++ "Z"

instance : Wire Timestamp := ⟨fun t => .str t.render, Decoder.text parse?⟩

end Timestamp

end ImageCompose
