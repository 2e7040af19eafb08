import Uplink.Instant

/-!
Dates and times of TOML: a date, a time of day, both, or both with an offset.

Only whether they are well formed matters here, and where they end.
-/

namespace Uplink.Toml.Moment

/-- A number of exactly so many digits. -/
def digits? (count : Nat) (cs : List Char) : Option (Nat × List Char) :=
  let digits := cs.take count
  if digits.length = count ∧ digits.all Char.isDigit then some (Instant.natural digits, cs.drop count) else none

/-- A number of two digits between bounds. -/
def part? (low high : Nat) (cs : List Char) : Option (Nat × List Char) := do
  let (n, rest) ← digits? 2 cs
  if low ≤ n ∧ n ≤ high then return (n, rest) else none

/-- The text after a mark. -/
def mark? (mark : Char) : List Char → Option (List Char)
  | c :: rest => if c = mark then some rest else none
  | [] => none

/-- The text after a date. -/
def date? (cs : List Char) : Option (List Char) := do
  let (year, cs) ← digits? 4 cs
  let (month, cs) ← part? 1 12 (← mark? '-' cs)
  let (day, cs) ← part? 1 31 (← mark? '-' cs)
  if day ≤ Date.monthLength year month then return cs else none

/-- The text after the fraction of a second, if there is one. -/
def skipFraction : List Char → List Char
  | '.' :: rest => if (rest.takeWhile Char.isDigit).isEmpty then '.' :: rest else rest.dropWhile Char.isDigit
  | cs => cs

/-- The text after a time of day. -/
def time? (cs : List Char) : Option (List Char) := do
  let (_, cs) ← part? 0 23 cs
  let (_, cs) ← part? 0 59 (← mark? ':' cs)
  -- A clock may insert a 60th second.
  let (_, cs) ← part? 0 60 (← mark? ':' cs)
  return skipFraction cs

/-- The text after an offset of hours and minutes. -/
def offset? (cs : List Char) : Option (List Char) := do
  let (_, cs) ← part? 0 23 cs
  let (_, cs) ← part? 0 59 (← mark? ':' cs)
  return cs

/-- The text after an offset from UTC, if there is one. A sign has to be followed by an offset. -/
def skipOffset? : List Char → Option (List Char)
  | 'Z' :: rest => some rest
  | 'z' :: rest => some rest
  | '+' :: rest => offset? rest
  | '-' :: rest => offset? rest
  | cs => some cs

/-- The text after a time that follows a date, if one does. -/
def skipTime? : List Char → Option (List Char)
  | [] => some []
  | c :: rest =>
    if c = 'T' ∨ c = 't' ∨ c = ' ' then
      match time? rest with
      | some rest => skipOffset? rest
      -- A blank after a date need not begin a time.
      | none => some (c :: rest)
    else some (c :: rest)

/-- A date, a time or both as the text spells them, and the text after them. -/
def read? (cs : List Char) : Option (String × List Char) := do
  let rest ← match date? cs with
    | some rest => skipTime? rest
    | none => time? cs
  return (String.ofList (cs.take (cs.length - rest.length)), rest)

end Uplink.Toml.Moment
