import Uplink.Text.Hex

/-!
The texts of a TOML document: blanks, comments, and the four kinds of strings.

A line ends with a line feed, which a carriage return may precede; inside a string over several
lines such an ending counts as a line feed. Control characters other than the tab stand nowhere.
-/

namespace Uplink.Toml

/-- The blanks within a line. -/
def isBlank (c : Char) : Bool :=
  c = ' ' || c = '\t'

/-- The text after its leading blanks. -/
def skipBlank (cs : List Char) : List Char :=
  cs.dropWhile isBlank

/-- The text after the end of a line, if it begins with one. -/
def lineEnd? : List Char → Option (List Char)
  | '\n' :: rest => some rest
  -- A carriage return by itself ends no line.
  | '\r' :: '\n' :: rest => some rest
  | _ => none

/-- Whether a character may stand in comments and strings. -/
def isPlain (c : Char) : Bool :=
  c = '\t' || (' ' ≤ c && c ≠ '\x7f')

/-- The text after a comment, if it begins with one. -/
def skipComment : List Char → List Char
  | '#' :: rest => rest.dropWhile isPlain
  | cs => cs

/-- The text after the rest of a line that holds nothing but blanks and a comment. -/
def skipLine? (cs : List Char) : Option (List Char) :=
  match skipComment (skipBlank cs) with
  | [] => some []
  | rest => lineEnd? rest

/-- The text after blanks, comments and ends of lines. Every step takes a character of the text, so
there are no more steps than characters. -/
def skipSpace : Nat → List Char → List Char
  | 0, cs => cs
  | steps + 1, cs =>
    match cs with
    | '#' :: rest => skipSpace steps (rest.dropWhile isPlain)
    | ' ' :: rest => skipSpace steps rest
    | '\t' :: rest => skipSpace steps rest
    | cs =>
      match lineEnd? cs with
      | some rest => skipSpace steps rest
      | none => cs

/-- What a step through a string takes from the text. -/
structure Piece where
  chars : List Char
  /-- Whether the string ends with it. -/
  last : Bool := false

/-- The number that digits in base 16 stand for, as a character. -/
def scalar? (cs : List Char) : Option Char := do
  let n ← Text.Hex.number? cs
  -- The halves of surrogate pairs are no characters.
  if n < 0xD800 ∨ (0xE000 ≤ n ∧ n < 0x110000) then some (Char.ofNat n) else none

/-- The character that a letter stands for after a backslash. -/
def escaped? : Char → Option Char
  | 'b' => some '\x08'
  | 't' => some '\t'
  | 'n' => some '\n'
  | 'f' => some '\x0c'
  | 'r' => some '\r'
  | '"' => some '"'
  | '\\' => some '\\'
  | _ => none

/-- The character of an escape whose backslash has been read. -/
def escape? : List Char → Option (Char × List Char)
  | 'u' :: rest =>
    if rest.length < 4 then none else do return (← scalar? (rest.take 4), rest.drop 4)
  | 'U' :: rest =>
    if rest.length < 8 then none else do return (← scalar? (rest.take 8), rest.drop 8)
  | c :: rest => do return (← escaped? c, rest)
  | [] => none

/-- A character that stands for itself. -/
def plain? (c : Char) (rest : List Char) : Option (Piece × List Char) :=
  if isPlain c then some (⟨[c], false⟩, rest) else none

/-- A piece of a string between quotes. -/
def basicPiece? : List Char → Option (Piece × List Char)
  | '"' :: rest => some (⟨[], true⟩, rest)
  | '\\' :: rest => do
    let (c, rest) ← escape? rest
    return (⟨[c], false⟩, rest)
  | c :: rest => plain? c rest
  | [] => none

/-- A piece of a string between apostrophes. -/
def literalPiece? : List Char → Option (Piece × List Char)
  | '\'' :: rest => some (⟨[], true⟩, rest)
  | c :: rest => plain? c rest
  | [] => none

/-- The end of a string over several lines: up to two more of its marks belong to the string. -/
def multiEnd (mark : Char) : List Char → Piece × List Char
  | a :: b :: rest =>
    if a = mark then if b = mark then (⟨[mark, mark], true⟩, rest) else (⟨[mark], true⟩, b :: rest)
    else (⟨[], true⟩, a :: b :: rest)
  | [a] => if a = mark then (⟨[mark], true⟩, []) else (⟨[], true⟩, [a])
  | [] => (⟨[], true⟩, [])

/-- Whether the rest of a line is blank. -/
def isLineBlank (cs : List Char) : Bool :=
  (lineEnd? (skipBlank cs)).isSome

/-- The text after blanks and ends of lines. -/
def skipLines : Nat → List Char → List Char
  | 0, cs => cs
  | steps + 1, cs =>
    match lineEnd? (skipBlank cs) with
    | some rest => skipLines steps rest
    | none => skipBlank cs

/-- A piece of a string between three quotes. A backslash at the end of a line takes the end of the
line and all blanks after it away. -/
def multiBasicPiece? : List Char → Option (Piece × List Char)
  | '"' :: '"' :: '"' :: rest => some (multiEnd '"' rest)
  -- Fewer than three quotes in a row belong to the string.
  | '"' :: rest => some (⟨['"'], false⟩, rest)
  | '\\' :: rest =>
    if isLineBlank rest then some (⟨[], false⟩, skipLines rest.length rest)
    else do
      let (c, rest) ← escape? rest
      return (⟨[c], false⟩, rest)
  | c :: rest =>
    match lineEnd? (c :: rest) with
    | some rest => some (⟨['\n'], false⟩, rest)
    | none => plain? c rest
  | [] => none

/-- A piece of a string between three apostrophes. -/
def multiLiteralPiece? : List Char → Option (Piece × List Char)
  | '\'' :: '\'' :: '\'' :: rest => some (multiEnd '\'' rest)
  | '\'' :: rest => some (⟨['\''], false⟩, rest)
  | c :: rest =>
    match lineEnd? (c :: rest) with
    | some rest => some (⟨['\n'], false⟩, rest)
    | none => plain? c rest
  | [] => none

/-- The rest of a string, piece by piece. Every step takes a character of the text. -/
def gather (piece? : List Char → Option (Piece × List Char)) :
    Nat → List Char → Option (List Char × List Char)
  | 0, _ => none
  | steps + 1, cs => do
    let (piece, rest) ← piece? cs
    if piece.last then return (piece.chars, rest)
    else
      let (more, rest) ← gather piece? steps rest
      return (piece.chars ++ more, rest)

/-- The rest of a string whose opening mark has been read. -/
def stringRest? (piece? : List Char → Option (Piece × List Char)) (cs : List Char) :
    Option (String × List Char) := do
  let (chars, rest) ← gather piece? (cs.length + 1) cs
  return (String.ofList chars, rest)

/-- The text after an end of a line, if there is one. -/
def skipLineEnd (cs : List Char) : List Char :=
  (lineEnd? cs).getD cs

/-- A string of one line. -/
def shortString? : List Char → Option (String × List Char)
  | '"' :: rest => stringRest? basicPiece? rest
  | '\'' :: rest => stringRest? literalPiece? rest
  | _ => none

/-- A string. The end of a line right after an opening mark of three characters does not count. -/
def string? : List Char → Option (String × List Char)
  -- Three marks have to be looked for first, as two of them are a string without characters.
  | '"' :: '"' :: '"' :: rest => stringRest? multiBasicPiece? (skipLineEnd rest)
  | '\'' :: '\'' :: '\'' :: rest => stringRest? multiLiteralPiece? (skipLineEnd rest)
  | cs => shortString? cs

end Uplink.Toml
