import Uplink.Decimal.Shortest
import Uplink.Text.Quoted
import Uplink.Value

/-!
Decoding a document value into something of ours, with a message for a value of the wrong shape.

A structure is given as a table, whose keys are decoded in the order of the table, or as an array,
with its fields in the order of their declaration. The two document formats differ in the text of a
number, in the forms of a choice and in whether an array may go on after the last field.
-/

namespace Uplink.Codec

/-- The formats that documents are written in. -/
inductive Format where
  | json
  | toml
deriving Repr, DecidableEq

/-- Decoding gives a value of ours, or says what is wrong. -/
abbrev Decoder (α : Type) := Value → Except String α

namespace Format

/-- The text of a number with a fraction or an exponent. -/
def floatText : Format → String → String
  | .json, literal => Decimal.literalText Decimal.Scientific.compact literal
  | .toml, literal => Decimal.literalText Decimal.Scientific.positional literal

/-- What a value is, in messages. -/
def describe (format : Format) : Value → String
  | .null => "null"
  | .bool value => "boolean `" ++ toString value ++ "`"
  | .int value => "integer `" ++ toString value ++ "`"
  | .float literal => "floating point `" ++ format.floatText literal ++ "`"
  | .str value => "string " ++ Text.quoted value
  | .moment _ => "map"
  | .array _ => "sequence"
  | .tables _ => "sequence"
  | .table _ => "map"

/-- A value is not of the kind that was expected. -/
def mismatch {α : Type} (format : Format) (value : Value) (expected : String) : Except String α :=
  .error ("invalid type: " ++ format.describe value ++ ", expected " ++ expected)

/-- Decode a text. -/
def text (format : Format) : Decoder String
  | .str value => .ok value
  | value => format.mismatch value "a string"

/-- Decode a truth value. -/
def bool (format : Format) : Decoder Bool
  | .bool value => .ok value
  | value => format.mismatch value "a boolean"

/-- Decode a number of 64 bits without sign; messages call it by its kind. -/
def word (format : Format) (kind : String) : Decoder UInt64
  | .int value =>
    if 0 ≤ value ∧ value.toNat < UInt64.size then .ok (UInt64.ofNat value.toNat)
    else .error ("invalid value: integer `" ++ toString value ++ "`, expected " ++ kind)
  | value => format.mismatch value kind

/-- Names between backticks, as messages list them. -/
def listNames : List String → String
  | [] => "there are no variants"
  | [name] => "expected `" ++ name ++ "`"
  | [one, other] => "expected `" ++ one ++ "` or `" ++ other ++ "`"
  | names => "expected one of " ++ ", ".intercalate (names.map fun name => "`" ++ name ++ "`")

/-- One of several names. -/
def choose {α : Type} (choices : List (String × α)) (name : String) : Except String α :=
  match choices.lookup name with
  | some choice => .ok choice
  | none => .error ("unknown variant `" ++ name ++ "`, " ++ listNames (choices.map (·.1)))

/-- What may stand beside a name that is given as the only key of a JSON table. -/
def jsonUnit : Value → Except String Unit
  | .null => .ok ()
  | value => json.mismatch value "unit"

/-- What may stand beside a name that is given as the only key of a TOML table. -/
def tomlUnit : Value → Except String Unit
  | .tables [] => .ok ()
  | .tables _ => .error "expected empty array"
  | .array [] => .ok ()
  | .table [] => .ok ()
  | .array _ => .error "expected empty table"
  | .table _ => .error "expected empty table"
  | .str _ => .error "expected table, found string"
  | .int _ => .error "expected table, found integer"
  | .float _ => .error "expected table, found float"
  | .bool _ => .error "expected table, found boolean"
  | .moment _ => .error "expected table, found datetime"
  | .null => .error "expected table, found none"

/-- Decode a choice among names. It is given as a text, or as the only key of a table. -/
def choice {α : Type} (format : Format) (choices : List (String × α)) : Decoder α
  | .str name => choose choices name
  | .table [(name, content)] => do
    let choice ← choose choices name
    match format with
    | .json => jsonUnit content
    | .toml => tomlUnit content
    return choice
  | value =>
    match format, value with
    | .json, .table _ => .error "invalid value: map, expected map with a single key"
    | .json, value => format.mismatch value "string or map"
    | .toml, .table [] => .error "wanted exactly 1 element, found 0 elements"
    | .toml, .table _ => .error "wanted exactly 1 element, more than 1 element"
    | .toml, _ => .error "wanted string or table"

end Format

/-- A field of a structure: its key, and how its value changes the structure. -/
structure Field (α : Type) where
  key : String
  /-- Whether the structure cannot do without it. -/
  required : Bool
  set : Value → α → Except String α

/-- A field with a default. -/
def optional {α β : Type} (key : String) (decode : Decoder β) (set : β → α → α) : Field α :=
  ⟨key, false, fun value whole => do return set (← decode value) whole⟩

/-- A field without a default. -/
def required {α β : Type} (key : String) (decode : Decoder β) (set : β → α → α) : Field α :=
  { optional key decode set with required := true }

/-- How a structure is decoded. -/
structure Layout (α : Type) where
  /-- What messages call it. -/
  name : String
  /-- The structure with every default, and with anything in the fields that have none. -/
  start : α
  fields : List (Field α)

namespace Layout

variable {α : Type}

/-- What messages say was expected. -/
def expected (layout : Layout α) : String :=
  "struct " ++ layout.name

/-- Decode the value of a key. Keys that no field has are passed over. -/
def visit (layout : Layout α) (whole : α) (entry : String × Value) : Except String α :=
  match layout.fields.find? (·.key = entry.1) with
  | none => .ok whole
  | some field => field.set entry.2 whole

/-- Decode the entries of a table. The first entry that is wrong counts, and then the first field
that is missing. -/
def ofEntries (layout : Layout α) (entries : List (String × Value)) : Except String α := do
  -- A field that is missing is not noticed while another one is wrong.
  let whole ← entries.foldlM layout.visit layout.start
  match layout.fields.find? fun field => field.required && (entries.lookup field.key).isNone with
  | some field => .error ("missing field `" ++ field.key ++ "`")
  | none => .ok whole

/-- What is wrong with an array that ends too early. -/
def tooShort (layout : Layout α) (length : Nat) : String :=
  let count := layout.fields.length
  "invalid length " ++ toString length ++ ", expected " ++ layout.expected ++ " with " ++ toString count ++
    (if count = 1 then " element" else " elements")

/-- Decode the items of an array into the fields, in order. -/
def ofItems (layout : Layout α) (position : Nat) (whole : α) :
    List (Field α) → List Value → Except String α
  | [], _ => .ok whole
  | field :: fields, [] =>
    -- A field with a default may be missing at the end as well.
    if field.required then .error (layout.tooShort position)
    else layout.ofItems (position + 1) whole fields []
  | field :: fields, item :: items => do
    layout.ofItems (position + 1) (← field.set item whole) fields items

/-- Decode an array. -/
def ofArray (layout : Layout α) (format : Format) (items : List Value) : Except String α := do
  let whole ← layout.ofItems 0 layout.start layout.fields items
  -- Only JSON minds items that no field is left for.
  if format = .json ∧ layout.fields.length < items.length then
    .error ("invalid length " ++ toString items.length ++ ", expected fewer elements in array")
  else .ok whole

/-- Decode a structure. A date or a time looks like a table without any of the keys. -/
def decode (layout : Layout α) (format : Format) : Decoder α
  | .table entries => layout.ofEntries entries
  | .moment _ => layout.ofEntries []
  | .array items => layout.ofArray format items
  | .tables items => layout.ofArray format items
  | value => format.mismatch value layout.expected

end Layout

end Uplink.Codec
