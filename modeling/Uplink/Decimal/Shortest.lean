import Uplink.Decimal.Literal

/-!
The shortest decimal that reads back as a given binary64 number.

The number is `m · 2 ^ q`, and the reals that round to it form an interval around it, with its ends
if `m` is even. Among the decimals of that interval those with the fewest digits are taken, and of
these the nearest. All comparisons are of natural numbers.
-/

namespace Uplink.Decimal

/-- A finite number above zero as `m · 2 ^ q`, with the ends of its interval in quarters of
`2 ^ q`. -/
structure Binary where
  m : Nat
  q : Int
  low : Nat
  high : Nat
deriving Repr

/-- The parts of a finite number other than zero, from its bits without the sign. -/
def Binary.ofBits (bits : Nat) : Binary :=
  let exponent : Nat := bits / Nat.pow 2 52
  let fraction : Nat := bits % Nat.pow 2 52
  let m := if exponent = 0 then fraction else fraction + Nat.pow 2 52
  let q : Int := if exponent = 0 then -1074 else exponent - 1075
  -- Below a power of two the neighbours stand twice as close.
  let low := if fraction = 0 ∧ 1 < exponent then 4 * m - 1 else 4 * m - 2
  ⟨m, q, low, 4 * m + 2⟩

/-- A decimal above zero: `digits · 10 ^ exponent`. -/
structure Scientific where
  digits : Nat
  exponent : Int
deriving Repr, DecidableEq

/-- The nearest point of the grid of multiples of `10 ^ k` that lies in the interval, if one does.
Only the two neighbours of the number can be it. -/
def Binary.onGrid? (b : Binary) (k : Int) : Option Nat :=
  -- A quarter of `2 ^ q` is `scale / unit` steps of the grid.
  let scale := Nat.pow 2 (b.q - 2).toNat * Nat.pow 10 (-k).toNat
  let unit := Nat.pow 10 k.toNat * Nat.pow 2 (2 - b.q).toNat
  let inside (c : Nat) : Bool :=
    if b.m % 2 = 0 then b.low * scale ≤ c * unit && c * unit ≤ b.high * scale
    else b.low * scale < c * unit && c * unit < b.high * scale
  let value := 4 * b.m * scale
  let below := value / unit
  let above := below + 1
  match inside below, inside above with
  | false, false => none
  | true, false => some below
  | false, true => some above
  | true, true =>
    let fromBelow := value - below * unit
    let fromAbove := above * unit - value
    if fromBelow < fromAbove then some below
    else if fromAbove < fromBelow then some above
    else if below % 2 = 0 then some below else some above

/-- The first grid that has a point in the interval, from `10 ^ k` downwards. -/
def Binary.search (b : Binary) : Nat → Int → Scientific
  | 0, k => ⟨0, k⟩
  | grids + 1, k =>
    match b.onGrid? k with
    | some c => ⟨c, k⟩
    | none => b.search grids (k - 1)

/-- The shortest decimal that reads back as the number. No finite number reaches `10 ^ 309`, and
17 digits are always enough. -/
def Binary.shortest (b : Binary) : Scientific :=
  b.search 660 309

/-- A decimal written out by position, always with a fraction. -/
def Scientific.positional (s : Scientific) : String :=
  let digits := Nat.toDigits 10 s.digits
  let zeros (n : Nat) : List Char := List.replicate n '0'
  if 0 ≤ s.exponent then String.ofList (digits ++ zeros s.exponent.toNat ++ ['.', '0'])
  else
    let places := (-s.exponent).toNat
    let padded := zeros (places + 1 - digits.length) ++ digits
    let whole := padded.length - places
    String.ofList (padded.take whole ++ '.' :: padded.drop whole)

/-- A decimal with one digit before the point and a power of ten. -/
def Scientific.exponential (s : Scientific) : String :=
  let digits := Nat.toDigits 10 s.digits
  let fraction := if digits.length = 1 then [] else '.' :: digits.drop 1
  String.ofList (digits.take 1 ++ fraction) ++ "e" ++ toString (s.exponent + digits.length - 1)

/-- A decimal written out by position where that takes few zeros, and with a power of ten elsewhere:
the point stands at most 16 places after the first digit and at most five before it. -/
def Scientific.compact (s : Scientific) : String :=
  let point : Int := (Nat.toDigits 10 s.digits).length + s.exponent
  if -5 < point ∧ point ≤ 16 then s.positional else s.exponential

/-- The text of a binary64 number: the shortest decimal that reads back, written in a given way. -/
def floatText (write : Scientific → String) (x : Float) : String :=
  let bits := x.toBits.toNat
  let sign := if bits / Nat.pow 2 63 = 1 then "-" else ""
  let magnitude := bits % Nat.pow 2 63
  let infinity := 2047 * Nat.pow 2 52
  if infinity < magnitude then "NaN"
  else if magnitude = infinity then sign ++ "inf"
  else if magnitude = 0 then sign ++ "0.0"
  else sign ++ write (Binary.ofBits magnitude).shortest

/-- The text of the binary64 number that a literal spells, `inf` and `nan` with a sign included. -/
def literalText (write : Scientific → String) (literal : String) : String :=
  match literal.toList.filter (fun c => c ≠ '+' && c ≠ '-') with
  | ['i', 'n', 'f'] => if literal.startsWith "-" then "-inf" else "inf"
  | ['n', 'a', 'n'] => "NaN"
  | _ => floatText write (Literal.ofChars literal.toList).toFloat

end Uplink.Decimal
