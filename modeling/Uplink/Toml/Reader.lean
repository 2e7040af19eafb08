import Uplink.Toml.Moment
import Uplink.Toml.Number
import Uplink.Toml.Table
import Uplink.Toml.Text

/-!
Reading a TOML document into a document value.

A document is read line by line: a heading opens a table, and the lines after it add keys to that
table, until the next heading or the end puts it into the document.
-/

namespace Uplink.Toml

/-- Values may be nested, and keys may have parts, in a number below this one. -/
def depthLimit : Nat := 80

/-- Whether a character may stand in a key without quotes. -/
def isKeyChar (c : Char) : Bool :=
  c.isAlphanum || c = '_' || c = '-'

/-- One part of a key. -/
def keyPart? (cs : List Char) : Option (String × List Char) :=
  let bare := cs.takeWhile isKeyChar
  -- Without quotes a part has at least one character.
  if bare.isEmpty then shortString? cs else some (String.ofList bare, cs.dropWhile isKeyChar)

/-- The parts of a key, which points separate. Every step takes a character of the text. -/
def keyParts? : Nat → List Char → Option (List String × List Char)
  | 0, _ => none
  | steps + 1, cs => do
    let (part, rest) ← keyPart? (skipBlank cs)
    match skipBlank rest with
    | '.' :: rest => do
      let (parts, rest) ← keyParts? steps rest
      return (part :: parts, rest)
    | rest => return ([part], rest)

/-- A key: the path to its table, and its last part. -/
structure Key where
  path : List String
  name : String

/-- A key with the blanks around it. -/
def key? (cs : List Char) : Option (Key × List Char) := do
  let (parts, rest) ← keyParts? (cs.length + 1) cs
  let name ← parts.getLast?
  -- Each part but the last stands for a table in the one before.
  if parts.length < depthLimit then return (⟨parts.dropLast, name⟩, rest) else none

/-- The text after a given word. -/
def word? (word : List Char) (cs : List Char) : Option (List Char) :=
  if cs.take word.length = word then some (cs.drop word.length) else none

/-- A date, a time or a number. -/
def momentOrNumber? (cs : List Char) : Option (Value × List Char) :=
  -- A date begins like a number, so it has to be looked for first.
  match Moment.read? cs with
  | some (literal, rest) => some (.moment literal, rest)
  | none => Number.read? cs

/-- A value that holds no other. -/
def scalarValue? (cs : List Char) : Option (Value × List Char) :=
  match cs with
  | 't' :: rest => do return (.bool true, ← word? "rue".toList rest)
  | 'f' :: rest => do return (.bool false, ← word? "alse".toList rest)
  | '"' :: _ => do
    let (text, rest) ← string? cs
    return (.str text, rest)
  | '\'' :: _ => do
    let (text, rest) ← string? cs
    return (.str text, rest)
  | cs => momentOrNumber? cs

mutual

/-- A value at a depth. Every step takes a character of the text. -/
def value? : Nat → Nat → List Char → Option (Value × List Char)
  | 0, _, _ => none
  | steps + 1, depth, cs =>
    match cs with
    | '[' :: rest => if depth + 1 < depthLimit then items? steps (depth + 1) [] rest else none
    -- Between braces everything stands on one line, so only blanks are passed over.
    | '\x7b' :: rest =>
      if depth + 1 < depthLimit then
        match skipBlank rest with
        | '\x7d' :: rest => some (.table [], rest)
        | rest => fields? steps (depth + 1) [] rest
      else none
    | cs => scalarValue? cs

/-- The items of an array from here on, after those already taken. -/
def items? : Nat → Nat → List Value → List Char → Option (Value × List Char)
  | 0, _, _, _ => none
  | steps + 1, depth, taken, cs =>
    match skipSpace cs.length cs with
    -- A comma may stand after the last item.
    | ']' :: rest => some (.array taken.reverse, rest)
    | cs => do
      let (item, rest) ← value? steps depth cs
      match skipSpace rest.length rest with
      | ',' :: rest => items? steps depth (item :: taken) rest
      | ']' :: rest => some (.array (item :: taken).reverse, rest)
      | _ => none

/-- The fields of a table in braces from here on, after those already taken. -/
def fields? : Nat → Nat → Entries → List Char → Option (Value × List Char)
  | 0, _, _, _ => none
  | steps + 1, depth, taken, cs => do
    let (key, rest) ← key? cs
    match rest with
    | '=' :: rest => do
      let (value, rest) ← value? steps depth (skipBlank rest)
      let taken ← taken.add? key.path key.name value
      match skipBlank rest with
      | ',' :: rest => fields? steps depth taken rest
      | '\x7d' :: rest => some (.table (entryValues taken), rest)
      | _ => none
    | _ => none

end

/-- The table that lines add keys to. -/
inductive Target where
  /-- The document itself, before the first heading. -/
  | root
  | table (key : Key)
  /-- A table of an array. -/
  | item (key : Key)

/-- A document under way: its complete tables, and the table that lines add keys to. -/
structure Draft where
  complete : Entries := []
  target : Target := .root
  current : Entries := []

namespace Draft

/-- Put the table that lines were added to into the document. -/
def close? (draft : Draft) : Option Entries :=
  match draft.target with
  -- Before the first heading the lines belong to the document itself.
  | .root => some draft.current
  | .table key => draft.complete.closeTable? key.path key.name draft.current
  | .item key => draft.complete.closeItem? key.path key.name draft.current

/-- A heading opens a table. -/
def openTable? (draft : Draft) (key : Key) : Option Draft := do
  let (current, complete) ← (← draft.close?).openTable? key.path key.name
  return { complete, target := .table key, current }

/-- A heading opens a table of an array. -/
def openItem? (draft : Draft) (key : Key) : Option Draft := do
  return { complete := ← (← draft.close?).openItem? key.path key.name, target := .item key, current := [] }

/-- A line adds a key. -/
def add? (draft : Draft) (key : Key) (value : Value) : Option Draft := do
  return { draft with current := ← draft.current.add? key.path key.name value }

end Draft

/-- One line of a document that is neither blank nor a comment, without the blanks before it. -/
def line? (draft : Draft) (cs : List Char) : Option (Draft × List Char) :=
  match cs with
  -- Two brackets have to be looked for first; no key begins with one.
  | '[' :: '[' :: rest => do
    let (key, rest) ← key? rest
    return (← draft.openItem? key, ← word? [']', ']'] rest)
  | '[' :: rest => do
    let (key, rest) ← key? rest
    return (← draft.openTable? key, ← word? [']'] rest)
  | cs => do
    let (key, rest) ← key? cs
    match rest with
    | '=' :: rest => do
      let (value, rest) ← value? (rest.length + 1) 0 (skipBlank rest)
      return (← draft.add? key value, rest)
    | _ => none

/-- The lines of a document from here on. Every step takes a character of the text. -/
def lines? : Nat → Draft → List Char → Option Draft
  | 0, _, _ => none
  | steps + 1, draft, cs =>
    match skipSpace cs.length cs with
    | [] => some draft
    | cs => do
      let (draft, rest) ← line? draft cs
      lines? steps draft (← skipLine? rest)

/-- The text without the mark of its byte order. -/
def skipByteOrder : List Char → List Char
  | '\ufeff' :: rest => rest
  | cs => cs

/-- The value that a document spells. -/
def parse? (text : String) : Option Value := do
  let cs := skipByteOrder text.toList
  let draft ← lines? (cs.length + 1) {} cs
  return .table (entryValues (← draft.close?))

end Uplink.Toml
