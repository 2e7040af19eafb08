/-!
Decimal literals: a sign, digits with or without a point, and a power of ten.
-/

namespace Uplink.Decimal

/-- What a literal spells: `digits · 10 ^ exponent`, below zero if `negative`. -/
structure Literal where
  negative : Bool
  digits : Nat
  exponent : Int
deriving Repr, DecidableEq

namespace Literal

/-- The number that decimal digits stand for; whatever is no digit is passed over. -/
def digitsOf (cs : List Char) : Nat :=
  (cs.filter Char.isDigit).foldl (fun n c => n * 10 + (c.toNat - '0'.toNat)) 0

/-- The integer that digits with an optional sign stand for. -/
def integerOf : List Char → Int
  | '-' :: cs => -(digitsOf cs : Int)
  | '+' :: cs => digitsOf cs
  | cs => digitsOf cs

/-- The parts of a well-formed literal. Underscores between digits do not count. -/
def ofChars (cs : List Char) : Literal :=
  let negative := cs.head? = some '-'
  let isMark (c : Char) : Bool := c = 'e' || c = 'E'
  let body := cs.takeWhile (!isMark ·)
  let power := (cs.dropWhile (!isMark ·)).drop 1
  let fraction := (body.dropWhile (· ≠ '.')).filter Char.isDigit
  ⟨negative, digitsOf body, integerOf power - fraction.length⟩

/-- How many digits a number has. -/
def width (n : Nat) : Nat := (Nat.toDigits 10 n).length

/-- The least number that is nearer to infinity than to any binary64 number. -/
def overflowBound : Nat := (Nat.pow 2 54 - 1) * Nat.pow 2 970

/-- Whether the number is too large for binary64. A number of more than 310 digits before the
point always is, and one of fewer than 300 never, so that no huge power of ten is formed. -/
def overflows (literal : Literal) : Bool :=
  let places : Int := width literal.digits + literal.exponent
  if literal.digits = 0 ∨ places < 300 then false
  else if 310 < places then true
  -- Each side has the power of ten that makes it a natural number.
  else overflowBound * Nat.pow 10 (-literal.exponent).toNat ≤ literal.digits * Nat.pow 10 literal.exponent.toNat

/-- The nearest binary64 number. -/
def toFloat (literal : Literal) : Float :=
  let places : Int := width literal.digits + literal.exponent
  let magnitude : Float :=
    if literal.digits = 0 ∨ places < -400 then 0.0
    else if literal.overflows then 1.0 / 0.0
    else Float.ofScientific literal.digits (literal.exponent < 0) literal.exponent.natAbs
  if literal.negative then -magnitude else magnitude

end Literal

end Uplink.Decimal
