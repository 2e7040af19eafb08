import Uplink.Decimal.Shortest
import Uplink.Value
import Uplink.Text.Hex

/-!
Reading JSON text into a document value.

A table holds each key once, in the order of the keys' bytes, and the last of several values of one
key counts. A number without fraction and exponent is an integer if 64 bits hold it, signed or
unsigned, and is spelled anew as a binary64 number otherwise; every other number is kept as its text
spells it. A number beyond all of binary64 is not read, and neither is a text whose tables and arrays
stand too deep in one another.
-/

namespace Uplink.Json

/-- Tables and arrays may stand in one another in a number below this one. -/
def depthLimit : Nat := 128

/-- The blanks that may stand between tokens. -/
def isBlank (c : Char) : Bool :=
  c = ' ' || c = '\t' || c = '\n' || c = '\r'

/-- The text after its leading blanks. -/
def skipBlank (cs : List Char) : List Char :=
  cs.dropWhile isBlank

/-- Whether a number is the first half of a pair of surrogates. -/
def isHighSurrogate (n : Nat) : Bool := 0xD800 ≤ n && n < 0xDC00

/-- Whether a number is the second half of a pair of surrogates. -/
def isLowSurrogate (n : Nat) : Bool := 0xDC00 ≤ n && n < 0xE000

/-- The character that a pair of surrogates stands for. -/
def paired (high low : Nat) : Char :=
  Char.ofNat (0x10000 + (high - 0xD800) * 0x400 + (low - 0xDC00))

/-- The character that a letter stands for after a backslash. -/
def escaped? : Char → Option Char
  | '"' => some '"'
  | '\\' => some '\\'
  | '/' => some '/'
  | 'b' => some '\x08'
  | 'f' => some '\x0c'
  | 'n' => some '\n'
  | 'r' => some '\r'
  | 't' => some '\t'
  | _ => none

/-- The number of a `\u` escape whose backslash and letter have been read. -/
def unit? : List Char → Option (Nat × List Char)
  | a :: b :: c :: d :: rest => do return (← Text.Hex.number? [a, b, c, d], rest)
  | _ => none

/-- One character of a string, or none at the closing quote. -/
def stringChar? : List Char → Option ((Option Char) × List Char)
  | [] => none
  | '"' :: rest => some (none, rest)
  | '\\' :: 'u' :: rest => do
    let (n, rest) ← unit? rest
    -- A character beyond the first 65536 is spelled as two numbers.
    if isHighSurrogate n then
      match rest with
      | '\\' :: 'u' :: rest =>
        let (low, rest) ← unit? rest
        if isLowSurrogate low then some (some (paired n low), rest) else none
      | _ => none
    else if isLowSurrogate n then none
    else some (some (Char.ofNat n), rest)
  | '\\' :: c :: rest => do return (some (← escaped? c), rest)
  -- A control character stands in a string as an escape only.
  | c :: rest => if c < ' ' then none else some (some c, rest)

/-- The rest of a string whose opening quote has been read. Every step takes a character of the
text, so there are no more steps than characters. -/
def stringRest : Nat → List Char → List Char → Option (String × List Char)
  | 0, _, _ => none
  | steps + 1, taken, cs =>
    match stringChar? cs with
    | none => none
    | some (none, rest) => some (String.ofList taken.reverse, rest)
    | some (some c, rest) => stringRest steps (c :: taken) rest

/-- Whether a character can stand in a number. -/
def isNumberChar (c : Char) : Bool :=
  c.isDigit || c = '-' || c = '+' || c = '.' || c = 'e' || c = 'E'

/-- Whether a text is digits, at least one. -/
def areDigits (cs : List Char) : Bool :=
  !cs.isEmpty && cs.all Char.isDigit

/-- Whether a text is digits without a needless zero in front. -/
def isNatural (cs : List Char) : Bool :=
  areDigits cs && (cs.length = 1 || cs.head? ≠ some '0')

/-- The number that decimal digits stand for. -/
def natural (cs : List Char) : Nat :=
  cs.foldl (fun n c => n * 10 + (c.toNat - '0'.toNat)) 0

/-- Whether a text is an exponent, without its letter. -/
def isExponent : List Char → Bool
  | '+' :: cs => areDigits cs
  | '-' :: cs => areDigits cs
  | cs => areDigits cs

/-- Whether a text is what may follow the integer part of a number. -/
def isNumberTail (cs : List Char) : Bool :=
  let exponentOk : List Char → Bool
    | [] => true
    | c :: cs => (c = 'e' || c = 'E') && isExponent cs
  match cs with
  | '.' :: cs => areDigits (cs.takeWhile Char.isDigit) && exponentOk (cs.dropWhile Char.isDigit)
  | cs => exponentOk cs

/-- The shortest spelling of the binary64 number that a text spells. -/
def respelled (cs : List Char) : String :=
  Decimal.literalText Decimal.Scientific.compact (String.ofList cs)

/-- A number under the spelling that it is kept as, unless it is beyond all of binary64. -/
def float? (cs : List Char) (literal : String) : Option Value :=
  if (Decimal.Literal.ofChars cs).overflows then none else some (.float literal)

/-- The number that a text spells. -/
def number? (cs : List Char) : Option Value :=
  let negative := cs.head? = some '-'
  let body := if negative then cs.drop 1 else cs
  let whole := body.takeWhile Char.isDigit
  let tail := body.dropWhile Char.isDigit
  if !isNatural whole || !isNumberTail tail then none
  else if tail.isEmpty then
    let n := natural whole
    -- A zero with a sign is no integer, as an integer would lose the sign.
    if negative then
      if 0 < n ∧ n ≤ Nat.pow 2 63 then some (.int (-n)) else float? cs (respelled cs)
    else if n < UInt64.size then some (.int n)
    else float? cs (respelled cs)
  -- A fraction or an exponent stays as it is spelled.
  else float? cs (String.ofList cs)

/-- A field put among fields that stand in the order of their keys; it replaces one of its key. -/
def insertField (key : String) (value : Value) : List (String × Value) → List (String × Value)
  | [] => [(key, value)]
  | (other, kept) :: rest =>
    if key = other then (key, value) :: rest
    else if key < other then (key, value) :: (other, kept) :: rest
    else (other, kept) :: insertField key value rest

/-- The text after a given word. -/
def word? (word : List Char) (cs : List Char) : Option (List Char) :=
  if cs.take word.length = word then some (cs.drop word.length) else none

mutual

/-- One value at a depth. Every step takes a character of the text, so there are no more than
characters. -/
def value? : Nat → Nat → List Char → Option (Value × List Char)
  | 0, _, _ => none
  | steps + 1, depth, cs =>
    match skipBlank cs with
    -- What would stand too deep ends the reading before a look at what is in it.
    | '\x7b' :: rest =>
      if depth + 1 < depthLimit then
        match skipBlank rest with
        | '\x7d' :: rest => some (.table [], rest)
        | rest => fields? steps (depth + 1) [] rest
      else none
    | '[' :: rest =>
      if depth + 1 < depthLimit then
        match skipBlank rest with
        | ']' :: rest => some (.array [], rest)
        | rest => items? steps (depth + 1) [] rest
      else none
    | '"' :: rest => do
      let (text, rest) ← stringRest (rest.length + 1) [] rest
      return (.str text, rest)
    | 'n' :: rest => do return (.null, ← word? "ull".toList rest)
    | 't' :: rest => do return (.bool true, ← word? "rue".toList rest)
    | 'f' :: rest => do return (.bool false, ← word? "alse".toList rest)
    | cs => do return (← number? (cs.takeWhile isNumberChar), cs.dropWhile isNumberChar)

/-- The items of an array from here on, after those already taken. -/
def items? : Nat → Nat → List Value → List Char → Option (Value × List Char)
  | 0, _, _, _ => none
  | steps + 1, depth, taken, cs => do
    let (item, rest) ← value? steps depth cs
    match skipBlank rest with
    | ',' :: rest => items? steps depth (item :: taken) rest
    | ']' :: rest => some (.array (item :: taken).reverse, rest)
    | _ => none

/-- The fields of a table from here on, after those already taken. -/
def fields? : Nat → Nat → List (String × Value) → List Char → Option (Value × List Char)
  | 0, _, _, _ => none
  | steps + 1, depth, taken, cs =>
    match skipBlank cs with
    | '"' :: rest => do
      let (key, rest) ← stringRest (rest.length + 1) [] rest
      match skipBlank rest with
      | ':' :: rest =>
        let (value, rest) ← value? steps depth rest
        -- A key that was read before gets the value that was read last.
        let taken := insertField key value taken
        match skipBlank rest with
        | ',' :: rest => fields? steps depth taken rest
        | '\x7d' :: rest => some (.table taken, rest)
        | _ => none
      | _ => none
    | _ => none

end

/-- The value that a whole text spells. -/
def parse? (text : String) : Option Value :=
  let cs := text.toList
  match value? (cs.length + 1) 0 cs with
  -- Nothing but blanks may follow.
  | some (value, rest) => if (skipBlank rest).isEmpty then some value else none
  | none => none

end Uplink.Json
