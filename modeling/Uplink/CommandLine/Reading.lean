import Uplink.CommandLine.Basic

/-!
Reading the arguments of one place: its options, until a command is named or the arguments end.

An option is spelled by its name after two dashes or by its letter after one, and the value of an
option is attached to it or follows as the next argument. A value that follows is looked at when the
next option is accepted, or when the arguments end. After two dashes alone there are no options,
and nothing else can stand there. Of several faults the first that is found counts.
-/

namespace Uplink.CommandLine

/-- The arguments that have been read. -/
structure Reading where
  /-- The options that were accepted, with their values. -/
  given : List (Switch × String) := []
  /-- The latest option whose value was to follow, with the value if it has come. -/
  held : Option (Rule × Option String) := none
deriving Repr, DecidableEq

namespace Reading

/-- The value that was given for an option. -/
def value? (reading : Reading) (switch : Switch) : Option String :=
  reading.given.lookup switch

/-- Whether an option was given. -/
def has (reading : Reading) (switch : Switch) : Bool :=
  (reading.value? switch).isSome

/-- Whether the next argument is the value of an option, unless it is an option itself. -/
def awaitsValue (reading : Reading) : Bool :=
  match reading.held with
  | some (_, none) => true
  | _ => false

/-- Accept an option. -/
def take (reading : Reading) (topic : Topic) (rule : Rule) (value : Option String) : Except Stop Reading :=
  match rule.switch, rule.operand, value with
  | .help, _, _ => .error (.help topic)
  | .version, _, _ => .error .version
  | _, some _, none => .error .valueMissing
  | switch, operand, value => do
    -- That an option is given twice is found before its second value is looked at.
    if reading.has switch then throw .conflict
    let value := value.getD ""
    operand.forM (Operand.check value)
    return { reading with given := reading.given ++ [(switch, value)] }

/-- Accept the option whose value was to follow. -/
def settle (reading : Reading) (topic : Topic) : Except Stop Reading :=
  match reading.held with
  | none => .ok reading
  | some (rule, value) => { reading with held := none }.take topic rule value

/-- Accept an option after the one before it. -/
def accept (reading : Reading) (topic : Topic) (rule : Rule) (value : Option String) : Except Stop Reading := do
  (← reading.settle topic).take topic rule value

/-- The value of an option is to follow. -/
def hold (reading : Reading) (topic : Topic) (rule : Rule) : Except Stop Reading := do
  return { ← reading.settle topic with held := some (rule, none) }

/-- The value of an option follows. -/
def supply (reading : Reading) (value : String) : Reading :=
  { reading with held := reading.held.map fun (rule, _) => (rule, some value) }

/-- An option by its name, with the value that is attached to it. -/
def long (reading : Reading) (grammar : Grammar) (name : String) (value : Option String) : Except Stop Reading :=
  match grammar.rules.find? (·.name = name) with
  | none => .error .argumentUnknown
  | some rule =>
    match rule.operand, value with
    | none, some _ => .error .valueSurplus
    | some _, none => reading.hold grammar.topic rule
    | _, value => reading.accept grammar.topic rule value

/-- Options by their letters. What follows the letter of an option with a value is its value, with an
equals sign between them or without. -/
def letters (grammar : Grammar) : Reading → List Char → Except Stop Reading
  | reading, [] => .ok reading
  | reading, c :: rest =>
    match grammar.rules.find? (·.letter = some c) with
    | none => .error .argumentUnknown
    | some rule =>
      match rule.operand, rest with
      | none, rest => do letters grammar (← reading.accept grammar.topic rule none) rest
      | some _, [] => reading.hold grammar.topic rule
      | some _, '=' :: value => reading.accept grammar.topic rule (some (String.ofList value))
      | some _, value => reading.accept grammar.topic rule (some (String.ofList value))

end Reading

/-- The forms of an argument. -/
inductive Argument where
  /-- Two dashes alone. -/
  | divider
  | long (name : String) (value : Option String)
  | letters (letters : List Char)
  | plain
deriving Repr, DecidableEq

/-- The form of an argument. A dash alone is no option. -/
def Argument.of (text : String) : Argument :=
  match text.toList with
  | ['-', '-'] => .divider
  | '-' :: '-' :: cs =>
    let value := match cs.dropWhile (· ≠ '=') with
      | [] => none
      | _ :: value => some (String.ofList value)
    .long (String.ofList (cs.takeWhile (· ≠ '='))) value
  | '-' :: c :: cs => .letters (c :: cs)
  | _ => .plain

namespace Grammar

/-- What is wrong with an argument that is no option. -/
def stranger (grammar : Grammar) : Stop :=
  if grammar.commands.isEmpty then .argumentUnknown else .commandUnknown

/-- What is wrong with the arguments after two dashes, if there are any. -/
def afterDivider (grammar : Grammar) (reading : Reading) : List String → Except Stop (Reading × List String)
  | [] => .ok (reading, [])
  | arg :: _ => .error (if grammar.commands.contains arg then .argumentUnknown else grammar.stranger)

/-- Read options until a command is named or the arguments end. -/
def scan (grammar : Grammar) : Reading → List String → Except Stop (Reading × List String)
  | reading, [] => .ok (reading, [])
  | reading, arg :: rest =>
    -- The name of a command may be the value of an option.
    if !reading.awaitsValue && grammar.commands.contains arg then .ok (reading, arg :: rest)
    else
      match Argument.of arg with
      | .divider => grammar.afterDivider reading rest
      | .long name value => do scan grammar (← reading.long grammar name value) rest
      | .letters letters => do scan grammar (← reading.letters grammar letters) rest
      | .plain => if reading.awaitsValue then scan grammar (reading.supply arg) rest else .error grammar.stranger

/-- Read the options of a command, which are its only arguments. -/
def options (grammar : Grammar) (args : List String) : Except Stop Reading := do
  (← grammar.scan {} args).1.settle grammar.topic

end Grammar

end Uplink.CommandLine
