import Uplink.Decimal.Shortest
import Uplink.Journal
import Uplink.Json.Printer

/-!
How an entry of the journal is written: as a JSON text, or as a line for people.
-/

namespace Uplink

/-- The layouts of an entry. -/
inductive LogLayout where
  | json
  /-- On one line. -/
  | compact
  /-- With each field on a line of its own. -/
  | pretty
deriving Repr, DecidableEq

/-- The layout that a setting asks for, in any letter case; every other text asks for JSON. No
character beyond ASCII has a letter of the names as its small letter. -/
def LogLayout.ofSetting (text : String) : LogLayout :=
  match text.toLower with
  | "pretty" => .pretty
  | "compact" => .compact
  | _ => .json

/-- The document form of what a field holds. There is none for a number that is not finite. -/
def FieldValue.encode : FieldValue → Value
  | .int value => .int value
  | .bool value => .bool value
  | .text value => .str value
  | .real value => if value.isFinite then .float (Decimal.floatText Decimal.Scientific.compact value) else .null

/-- The document form of named values. -/
def Fields.encode (fields : Fields) : Value :=
  .table (fields.map fun (key, value) => (key, value.encode))

/-- The document form of a span: its fields and its name. -/
def Span.encode (span : Span) : Value :=
  .table (span.fields.map (fun (key, value) => (key, value.encode)) ++ [("name", .str span.name)])

namespace Entry

/-- The document form of an entry about a target. The text is the first of its fields, and there are
spans only if it was written in some. -/
def encode (target : String) (entry : Entry) : Value :=
  let spans := entry.spans.map Span.encode
  let within := match spans.getLast? with
    | none => []
    | some innermost => [("span", innermost), ("spans", .array spans)]
  .table ([("level", .str entry.level.name),
    ("fields", Fields.encode (("message", .text entry.message) :: entry.fields)),
    ("target", .str target)] ++ within)

/-- A field for people. -/
def fieldText (field : String × FieldValue) : String :=
  field.1 ++ "=" ++ Json.render field.2.encode

/-- The text of an entry about a target in a layout. -/
def render (layout : LogLayout) (target : String) (entry : Entry) : String :=
  let fields := entry.fields.map fieldText
  match layout with
  | .json => Json.render (entry.encode target)
  | .compact => " ".intercalate (entry.level.name :: entry.message :: fields)
  | .pretty => "\n    ".intercalate ((entry.level.name ++ " " ++ target ++ ": " ++ entry.message) :: fields)

end Entry

end Uplink
