import Uplink.Value
import Uplink.Text.Hex

/-!
Writing a document value as JSON text on one line, without blanks between the tokens.

Fields are written in the order of the table. A string escapes quotes, backslashes and the control
characters below the blank, and nothing else.
-/

namespace Uplink.Json

/-- A character as it stands in a string. -/
def escape (c : Char) : List Char :=
  match c with
  | '"' => ['\\', '"']
  | '\\' => ['\\', '\\']
  | '\n' => ['\\', 'n']
  | '\r' => ['\\', 'r']
  | '\t' => ['\\', 't']
  | '\x08' => ['\\', 'b']
  | '\x0c' => ['\\', 'f']
  -- Any other control character is spelled by its number.
  | c => if c < ' ' then '\\' :: 'u' :: Text.Hex.digits 4 c.toNat else [c]

/-- A text between quotes. -/
def quote (text : String) : List Char :=
  '"' :: text.toList.flatMap escape ++ ['"']

/-- Pieces with a comma between each two. -/
def commaSeparated : List (List Char) → List Char
  | [] => []
  | [piece] => piece
  | piece :: rest => piece ++ ',' :: commaSeparated rest

mutual

/-- The characters of a value. -/
def chars : Value → List Char
  | .null => "null".toList
  | .bool true => "true".toList
  | .bool false => "false".toList
  | .int n => (toString n).toList
  | .float literal => literal.toList
  | .str text => quote text
  -- There are no dates in JSON, so their text stands as a string.
  | .moment literal => quote literal
  | .array items => '[' :: commaSeparated (itemChars items) ++ [']']
  | .tables items => '[' :: commaSeparated (itemChars items) ++ [']']
  | .table fields => '\x7b' :: commaSeparated (fieldChars fields) ++ ['\x7d']

/-- The characters of each item. -/
def itemChars : List Value → List (List Char)
  | [] => []
  | item :: rest => chars item :: itemChars rest

/-- The characters of each field. -/
def fieldChars : List (String × Value) → List (List Char)
  | [] => []
  | (key, value) :: rest => (quote key ++ ':' :: chars value) :: fieldChars rest

end

/-- The text of a value. -/
def render (value : Value) : String :=
  String.ofList (chars value)

end Uplink.Json
