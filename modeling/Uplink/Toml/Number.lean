import Uplink.Decimal.Literal
import Uplink.Text.Hex
import Uplink.Value

/-!
Numbers of TOML: integers of 64 bits with sign, in base 10, 16, 8 or 2, and binary64 numbers.

An underscore may stand between two digits. An integer that 64 bits do not hold is no number, and
neither is one above every binary64 number.
-/

namespace Uplink.Toml.Number

/-- Digits with single underscores between them, and the text after them. -/
def moreDigits? (isDigit : Char → Bool) : List Char → Option (List Char × List Char)
  | [] => some ([], [])
  -- An underscore stands between two digits, and not beside another one.
  | '_' :: c :: rest =>
    if isDigit c then do
      let (digits, rest) ← moreDigits? isDigit rest
      return (c :: digits, rest)
    else none
  | c :: rest =>
    if isDigit c then do
      let (digits, rest) ← moreDigits? isDigit rest
      return (c :: digits, rest)
    else some ([], c :: rest)

/-- At least one digit. -/
def digits? (isDigit : Char → Bool) : List Char → Option (List Char × List Char)
  | c :: rest =>
    if isDigit c then do
      let (digits, rest) ← moreDigits? isDigit rest
      return (c :: digits, rest)
    else none
  | [] => none

/-- A sign, if there is one. -/
def sign : List Char → List Char × List Char
  | '+' :: rest => (['+'], rest)
  | '-' :: rest => (['-'], rest)
  | cs => ([], cs)

/-- Digits in base 10 without a needless zero in front. -/
def natural? : List Char → Option (List Char × List Char)
  -- A zero in front is the whole number.
  | '0' :: rest => some (['0'], rest)
  | cs => digits? Char.isDigit cs

/-- An integer in base 16, 8 or 2 whose mark has been read. -/
def based? (base : Nat) (cs : List Char) : Option (Value × List Char) := do
  let isDigit (c : Char) : Bool := (Text.Hex.digitValue? c).any (· < base)
  let (digits, rest) ← digits? isDigit cs
  let n := digits.foldl (fun n c => n * base + (Text.Hex.digitValue? c).getD 0) 0
  -- There is no sign here, so half of the range is left.
  if n < Nat.pow 2 63 then return (.int n, rest) else none

/-- A fraction, if there is one. A point has to be followed by digits. -/
def fraction? : List Char → Option (List Char × List Char)
  | '.' :: rest => do
    let (digits, rest) ← digits? Char.isDigit rest
    return ('.' :: digits, rest)
  | cs => some ([], cs)

/-- An exponent, if there is one. Its letter has to be followed by digits. -/
def exponent? : List Char → Option (List Char × List Char)
  | c :: rest =>
    if c = 'e' ∨ c = 'E' then do
      let (sign, rest) := sign rest
      let (digits, rest) ← digits? Char.isDigit rest
      return ('e' :: sign ++ digits, rest)
    else some ([], c :: rest)
  | [] => some ([], [])

/-- The integer that a sign and digits spell. -/
def integer? (chars : List Char) : Option Value :=
  let n := Decimal.Literal.integerOf chars
  if Int64.minValue.toInt ≤ n ∧ n ≤ Int64.maxValue.toInt then some (.int n) else none

/-- The binary64 number that a literal spells. -/
def float? (chars : List Char) : Option Value :=
  let literal := Decimal.Literal.ofChars chars
  -- Only what is too large above zero is refused.
  if literal.overflows && !literal.negative then none else some (.float (String.ofList chars))

/-- Infinity or the lack of a number, after a sign. -/
def special? (sign : List Char) : List Char → Option (Value × List Char)
  | 'i' :: 'n' :: 'f' :: rest => some (.float (String.ofList (sign ++ ['i', 'n', 'f'])), rest)
  | 'n' :: 'a' :: 'n' :: rest => some (.float (String.ofList (sign ++ ['n', 'a', 'n'])), rest)
  | _ => none

/-- A number in base 10. -/
def decimal? (cs : List Char) : Option (Value × List Char) :=
  let (sign, body) := sign cs
  match natural? body with
  | none => special? sign body
  | some (whole, rest) => do
    let (fraction, rest) ← fraction? rest
    let (exponent, rest) ← exponent? rest
    let chars := sign ++ whole ++ fraction ++ exponent
    let value ← if fraction.isEmpty && exponent.isEmpty then integer? chars else float? chars
    return (value, rest)

/-- A number. -/
def read? : List Char → Option (Value × List Char)
  | '0' :: 'x' :: rest => based? 16 rest
  | '0' :: 'o' :: rest => based? 8 rest
  | '0' :: 'b' :: rest => based? 2 rest
  | cs => decimal? cs

end Uplink.Toml.Number
