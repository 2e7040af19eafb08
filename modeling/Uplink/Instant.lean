import Uplink.Text.Blank

/-!
Instants and their written form: a calendar date, a time of day, and an offset from UTC.

Days are counted by the Gregorian calendar in both directions without end, with a year 0. A second
that a clock inserts keeps its own number of nanoseconds, from one to two thousand million.
-/

namespace Uplink

/-- Seconds since the start of 1970 in UTC, and the nanoseconds since that second began. An
inserted second shares its number with the one before it and goes on counting nanoseconds. -/
structure Instant where
  seconds : Int
  nanos : Nat
deriving Repr, DecidableEq

/-- A day of the calendar. -/
structure Date where
  year : Int
  month : Nat
  day : Nat
deriving Repr, DecidableEq

namespace Date

/-- Whether a year has a 29th of February. -/
def isLeap (year : Int) : Bool :=
  year % 4 = 0 && (year % 100 ≠ 0 || year % 400 = 0)

/-- How many days a month has. -/
def monthLength (year : Int) : Nat → Nat
  | 2 => if isLeap year then 29 else 28
  | 4 | 6 | 9 | 11 => 30
  | _ => 31

/-- Whether the calendar has this day. -/
def isValid (date : Date) : Bool :=
  1 ≤ date.month && date.month ≤ 12 && 1 ≤ date.day && date.day ≤ monthLength date.year date.month

/-- The number of days from the start of 1970. The year is taken to begin in March, so that its
last day is the one that leap years add. -/
def toDays (date : Date) : Int :=
  -- January and February are the last two months of the year before.
  let year := if date.month ≤ 2 then date.year - 1 else date.year
  let month := if date.month ≤ 2 then date.month + 9 else date.month - 3
  let dayOfYear : Int := ((153 * month + 2) / 5 + date.day - 1 : Nat)
  365 * year + year / 4 - year / 100 + year / 400 + dayOfYear - 719468

/-- The day that stands so many days from the start of 1970. -/
def ofDays (days : Int) : Date :=
  let shifted := days + 719468
  -- The calendar repeats itself after 400 years.
  let era := shifted / 146097
  let dayOfEra := (shifted % 146097).toNat
  -- The leap days of the years before are taken out, and those that centuries leave out put in.
  let yearOfEra := (dayOfEra - dayOfEra / 1460 + dayOfEra / 36524 - dayOfEra / 146096) / 365
  let dayOfYear := dayOfEra - (365 * yearOfEra + yearOfEra / 4 - yearOfEra / 100)
  -- From March on, every five months have 153 days.
  let month := (5 * dayOfYear + 2) / 153
  let day := dayOfYear - (153 * month + 2) / 5 + 1
  let year : Int := era * 400 + yearOfEra
  if month < 10 then ⟨year, month + 3, day⟩ else ⟨year + 1, month - 9, day⟩

end Date

namespace Instant

/-- Digits of a number, padded with zeros in front to a width. -/
def padded (width n : Nat) : List Char :=
  let digits := Nat.toDigits 10 n
  List.replicate (width - digits.length) '0' ++ digits

/-- A year: four digits, with a sign only outside of 0 to 9999. -/
def yearChars (year : Int) : List Char :=
  if 0 ≤ year ∧ year ≤ 9999 then padded 4 year.toNat
  else if year < 0 then '-' :: padded 4 year.natAbs
  else '+' :: padded 4 year.toNat

/-- The fraction of a second with 0, 3, 6 or 9 digits, the fewest that lose nothing. -/
def fractionChars (nanos : Nat) : List Char :=
  if nanos = 0 then []
  else if nanos % 1000000 = 0 then '.' :: padded 3 (nanos / 1000000)
  else if nanos % 1000 = 0 then '.' :: padded 6 (nanos / 1000)
  else '.' :: padded 9 nanos

/-- The written form in UTC. -/
def render (instant : Instant) : String :=
  let date := Date.ofDays (instant.seconds / 86400)
  let second := (instant.seconds % 86400).toNat
  -- An inserted second shows as the 60th of its minute.
  let inserted := instant.nanos / 1000000000
  String.ofList <|
    yearChars date.year ++ '-' :: padded 2 date.month ++ '-' :: padded 2 date.day ++
    'T' :: padded 2 (second / 3600) ++ ':' :: padded 2 (second / 60 % 60) ++
    ':' :: padded 2 (second % 60 + inserted) ++ fractionChars (instant.nanos % 1000000000) ++ ['Z']

/-- The text after its leading blanks. -/
def skipBlank (cs : List Char) : List Char :=
  cs.dropWhile Text.isBlank

/-- The number that decimal digits stand for. -/
def natural (cs : List Char) : Nat :=
  cs.foldl (fun n c => n * 10 + (c.toNat - '0'.toNat)) 0

/-- A number of at least one digit and at most so many. -/
def number? (width : Nat) (cs : List Char) : Option (Nat × List Char) :=
  let digits := (cs.take width).takeWhile Char.isDigit
  if digits.isEmpty then none else some (natural digits, cs.drop digits.length)

/-- A year: up to four digits, or a sign and any number of them. -/
def year? (cs : List Char) : Option (Int × List Char) :=
  match cs with
  | '-' :: rest => do
    let (n, rest) ← number? rest.length rest
    return (-(n : Int), rest)
  | '+' :: rest => do
    let (n, rest) ← number? rest.length rest
    return ((n : Int), rest)
  | cs => do
    let (n, rest) ← number? 4 cs
    return ((n : Int), rest)

/-- The text after a mark, which blanks may precede. -/
def mark? (mark : Char) (cs : List Char) : Option (List Char) :=
  match skipBlank cs with
  | c :: rest => if c = mark then some rest else none
  | [] => none

/-- A date: year, month and day between hyphens. -/
def date? (cs : List Char) : Option (Date × List Char) := do
  let (year, cs) ← year? (skipBlank cs)
  let (month, cs) ← number? 2 (skipBlank (← mark? '-' cs))
  let (day, cs) ← number? 2 (skipBlank (← mark? '-' cs))
  return (⟨year, month, day⟩, cs)

/-- The nanoseconds of a fraction, if there is one: nine digits count, and more are passed over. -/
def fraction? : List Char → Option (Nat × List Char)
  | '.' :: cs =>
    let digits := cs.takeWhile Char.isDigit
    if digits.isEmpty then none
    else
      let kept := digits.take 9
      some (natural kept * Nat.pow 10 (9 - kept.length), cs.drop digits.length)
  | cs => some (0, cs)

/-- A time of day: seconds since midnight, and nanoseconds. The 60th second of a minute is an
inserted one. -/
def time? (cs : List Char) : Option ((Nat × Nat) × List Char) := do
  let (hour, cs) ← number? 2 (skipBlank cs)
  let (minute, cs) ← number? 2 (skipBlank (← mark? ':' cs))
  let (second, cs) ← number? 2 (skipBlank (← mark? ':' cs))
  let (nanos, cs) ← fraction? cs
  if hour < 24 ∧ minute < 60 ∧ second ≤ 60 then
    let inserted := if second = 60 then 1 else 0
    return ((hour * 3600 + minute * 60 + (second - inserted), nanos + inserted * 1000000000), cs)
  else none

/-- An offset from UTC in seconds: `Z`, `UTC` in any letter case, or a sign with hours and minutes.
It is less than a day. -/
def offset? (cs : List Char) : Option (Int × List Char) :=
  match cs with
  | 'Z' :: rest => some (0, rest)
  | 'z' :: rest => some (0, rest)
  | _ =>
    if (cs.take 3).map Char.toLower = ['u', 't', 'c'] then some (0, cs.drop 3)
    else
      match cs with
      | sign :: h :: i :: rest =>
        -- The sign may be a hyphen or a true minus.
        if (sign = '+' ∨ sign = '-' ∨ sign = '−') ∧ h.isDigit ∧ i.isDigit then
          -- The minutes may follow at once, or after a colon and blanks.
          match rest.dropWhile (fun c => c = ':' || Text.isBlank c) with
          | m :: n :: rest =>
            if m.isDigit ∧ n.isDigit ∧ m < '6' then
              let size : Int := natural [h, i] * 3600 + natural [m, n] * 60
              if size < 86400 then some (if sign = '+' then size else -size, rest) else none
            else none
          | _ => none
        else none
      | _ => none

/-- The mark between the date and the time. -/
def separator? : List Char → Option (List Char)
  | 'T' :: cs => some cs
  | 't' :: cs => some cs
  | ' ' :: cs => some cs
  | _ => none

/-- The years that an instant can be given and shown in. -/
def inRange (date : Date) : Bool :=
  -262143 ≤ date.year && date.year ≤ 262142

/-- Read a date, a time and an offset. Blanks may stand around the numbers and at the end. -/
def parse? (text : String) : Option Instant := do
  let (date, cs) ← date? text.toList
  let ((second, nanos), cs) ← time? (← separator? cs)
  let (offset, cs) ← offset? (skipBlank cs)
  -- The date and the time are those of the place with this offset.
  let seconds := date.toDays * 86400 + second - offset
  -- The range is that of the day as it is written and of the day in UTC.
  if (skipBlank cs).isEmpty && date.isValid && inRange date && inRange (Date.ofDays (seconds / 86400)) then
    return ⟨seconds, nanos⟩
  else none

end Instant

end Uplink
