import Uplink.Metrics

/-!
Structured log entries, and the telemetry that every part of a session writes to.

An entry has a level, a text, named fields and the spans that it was written in, the outermost
first. Telemetry keeps the counters together with the entries written since they were last read.
-/

namespace Uplink

/-- How grave an entry is, the gravest first. -/
inductive Level where
  | error
  | warn
  | info
  | debug
  | trace
deriving Repr, DecidableEq

namespace Level

/-- The name that entries show. -/
def name : Level → String
  | .error => "ERROR"
  | .warn => "WARN"
  | .info => "INFO"
  | .debug => "DEBUG"
  | .trace => "TRACE"

/-- How much is written at this level: each level includes the graver ones. -/
def verbosity : Level → Nat
  | .error => 1
  | .warn => 2
  | .info => 3
  | .debug => 4
  | .trace => 5

/-- The level a setting asks for, in any letter case; every other text asks for `info`.
Only letters of ASCII have the five names' letters as capitals, so ASCII case is enough. -/
def ofSetting (text : String) : Level :=
  match text.toUpper with
  | "ERROR" => .error
  | "WARN" => .warn
  | "DEBUG" => .debug
  | "TRACE" => .trace
  | _ => .info

end Level

/-- What a field of an entry holds. -/
inductive FieldValue where
  | int (value : Int)
  | bool (value : Bool)
  | text (value : String)
  /-- A binary floating-point number. -/
  | real (value : Float)

/-- Named values, in the order in which they were given. -/
abbrev Fields := List (String × FieldValue)

/-- A stretch of work that entries are written in. -/
structure Span where
  name : String
  fields : Fields

/-- One entry of the journal. -/
structure Entry where
  level : Level
  message : String
  fields : Fields
  spans : List Span

/-- The counters, and the entries written since they were last taken. -/
structure Telemetry where
  metrics : Metrics := {}
  /-- The newest entry stands first. -/
  entries : List Entry := []
  /-- The spans of the work in hand, the outermost first. -/
  spans : List Span := []

namespace Telemetry

/-- Count an event. -/
def count (telemetry : Telemetry) (event : Metrics.Count) : Telemetry :=
  { telemetry with metrics := telemetry.metrics.count event }

/-- Write an entry. -/
def log (telemetry : Telemetry) (level : Level) (message : String) (fields : Fields) : Telemetry :=
  { telemetry with entries := ⟨level, message, fields, telemetry.spans⟩ :: telemetry.entries }

/-- What follows is written in the given spans. -/
def within (telemetry : Telemetry) (spans : List Span) : Telemetry :=
  { telemetry with spans }

/-- Take the entries written so far, the oldest first. -/
def takeEntries (telemetry : Telemetry) : List Entry × Telemetry :=
  (telemetry.entries.reverse, { telemetry with entries := [] })

end Telemetry

end Uplink
