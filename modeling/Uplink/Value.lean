/-!
Document values: what a JSON or a TOML text says, before it is decoded into something of ours.
-/

namespace Uplink

/-- A document value. Tables keep the order of their text. -/
inductive Value where
  | null
  | bool (value : Bool)
  | int (value : Int)
  /-- A number that is no integer, spelled as its text spells it. -/
  | float (literal : String)
  | str (value : String)
  /-- A date, a time or both, spelled as its text spells it. -/
  | moment (literal : String)
  | array (items : List Value)
  /-- An array of tables, each under a heading of its own. -/
  | tables (items : List Value)
  | table (fields : List (String × Value))
deriving Repr, Inhabited

namespace Value

/-- Whether the value is `null`. -/
def isNull : Value → Bool
  | .null => true
  | _ => false

/-- The field of a table, if the value is a table that has it. -/
def field? : Value → String → Option Value
  | .table fields, key => fields.lookup key
  | _, _ => none

end Value

end Uplink
