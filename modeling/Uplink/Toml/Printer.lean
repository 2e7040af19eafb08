import Uplink.Text.Hex
import Uplink.Value

/-!
Writing a document of tables as TOML: each table under its heading, a line for each key, and a blank
line between two tables.

A string is written in the plainest of its forms that needs no escapes, and if there is none,
between quotes with escapes.
-/

namespace Uplink.Toml

/-- The length of the longest run of a character. -/
def longestRun (c : Char) (cs : List Char) : Nat :=
  (cs.foldl (fun (longest, run) other => if other = c then (max longest (run + 1), run + 1) else (longest, 0))
    (0, 0)).1

/-- Whether a character needs an escape in every form of a string but those over one line, where the
end of a line needs one too. -/
def isControl (c : Char) : Bool :=
  (c < ' ' && c ≠ '\t' && c ≠ '\n') || c = '\x7f'

/-- The forms of a string. -/
inductive StringForm where
  /-- Between quotes. -/
  | basic
  /-- Between apostrophes. -/
  | literal
  /-- Between three quotes. -/
  | multiBasic
  /-- Between three apostrophes. -/
  | multiLiteral
deriving Repr, DecidableEq

/-- The form that a string is written in. -/
def StringForm.of (cs : List Char) : StringForm :=
  let controlled := cs.any isControl
  let escaping := controlled || cs.contains '\\'
  let broken := cs.contains '\n'
  -- The forms are tried in turn, those on one line before their counterparts over several.
  if !escaping && !cs.contains '"' && !broken then .basic
  else if !controlled && !cs.contains '\'' && !broken then .literal
  else if !escaping && longestRun '"' cs ≤ 2 then .multiBasic
  else if !controlled && longestRun '\'' cs ≤ 2 then .multiLiteral
  -- No form can do without escapes.
  else if broken then .multiBasic
  else .basic

/-- The escape of a character other than a quote and an end of a line, if it needs one. -/
def escapeOf? (c : Char) : Option (List Char) :=
  match c with
  | '\x08' => some ['\\', 'b']
  | '\t' => some ['\\', 't']
  | '\x0c' => some ['\\', 'f']
  | '\r' => some ['\\', 'r']
  | '\\' => some ['\\', '\\']
  | c =>
    if isControl c then
      some ['\\', 'u', '0', '0', Text.Hex.capitalDigit (c.toNat / 16), Text.Hex.capitalDigit (c.toNat % 16)]
    else none

/-- The text between quotes on one line. -/
def basicText : List Char → List Char
  | [] => []
  | '"' :: rest => '\\' :: '"' :: basicText rest
  | '\n' :: rest => '\\' :: 'n' :: basicText rest
  | c :: rest => (escapeOf? c).getD [c] ++ basicText rest

/-- The text between three quotes, after a number of quotes in a row. Two quotes may stand as they
are, and the third is escaped. -/
def multiBasicText : Nat → List Char → List Char
  | _, [] => []
  | run, '"' :: rest => if run = 2 then '\\' :: '"' :: multiBasicText 0 rest else '"' :: multiBasicText (run + 1) rest
  | _, '\n' :: rest => '\n' :: multiBasicText 0 rest
  | _, c :: rest => (escapeOf? c).getD [c] ++ multiBasicText 0 rest

/-- The text of a string. One with several lines begins on a line of its own. -/
def renderString (text : String) : String :=
  let cs := text.toList
  let opening := if cs.contains '\n' then "\n" else ""
  match StringForm.of cs with
  | .basic => "\"" ++ String.ofList (basicText cs) ++ "\""
  | .literal => "'" ++ text ++ "'"
  | .multiBasic => "\"\"\"" ++ opening ++ String.ofList (multiBasicText 0 cs) ++ "\"\"\""
  | .multiLiteral => "'''" ++ opening ++ text ++ "'''"

/-- The text of a value that holds no other. Integers have 64 bits with sign. -/
def renderScalar? : Value → Option String
  | .bool value => some (toString value)
  | .int value => if Int64.minValue.toInt ≤ value ∧ value ≤ Int64.maxValue.toInt then some (toString value) else none
  | .str value => some (renderString value)
  | _ => none

/-- The line of a key. -/
def renderField? (field : String × Value) : Option String := do
  return field.1 ++ " = " ++ (← renderScalar? field.2) ++ "\n"

/-- A table under its heading. -/
def renderTable? (entry : String × Value) : Option String :=
  match entry.2 with
  | .table fields => do return "[" ++ entry.1 ++ "]\n" ++ String.join (← fields.mapM renderField?)
  | _ => none

/-- The text of a document whose keys hold tables of values that hold no other, under bare keys. -/
def render? : Value → Option String
  | .table sections => do return "\n".intercalate (← sections.mapM renderTable?)
  | _ => none

end Uplink.Toml
