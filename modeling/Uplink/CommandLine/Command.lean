import Uplink.CommandLine.Reading
import Uplink.Simulated.Cloud

/-!
The command line as a whole: options of the program, a command, and options of the command.
-/

namespace Uplink.CommandLine

/-- What the program is asked to do. -/
inductive Command where
  /-- Run a simulation. -/
  | run (script : Simulated.Script) (dropEvery : Option UInt64) (sampleEvery : UInt64)
  /-- Look whether the configuration can be used, and list it if that is asked for. -/
  | config (listing : Bool)
deriving Repr, DecidableEq

/-- The command line of a command. -/
structure Invocation where
  /-- The path of the configuration. -/
  path : Option String
  command : Command
deriving Repr, DecidableEq

/-- The script of the simulation that the options ask for. -/
def scriptOf (reading : Reading) : Except Stop Simulated.Script :=
  match reading.has .neverReady, reading.has .associate with
  | true, true => .error .conflict
  | true, false => .ok .neverReady
  | false, true => .ok .association
  | false, false => .ok .ready

/-- The number of seconds between two samples, if no option says otherwise. -/
def defaultSampleEvery : UInt64 := 10

/-- Help on a command. -/
def helpTopic : List String → Stop
  | [] => .help .program
  | ["run"] => .help .run
  | ["config"] => .help .config
  | ["help"] => .help .help
  | _ => .commandUnknown

/-- Read a command and its options. -/
def command (name : String) (args : List String) : Except Stop Command :=
  match name with
  | "run" => do
    let reading ← runGrammar.options args
    return .run (← scriptOf reading) ((reading.value? .dropLinkEvery).bind word?)
      (((reading.value? .sampleEvery).bind word?).getD defaultSampleEvery)
  | "config" => do return .config ((← configGrammar.options args).has .listing)
  | _ => .error (helpTopic args)

/-- The path of the configuration: the one that is given, or else the usual one. -/
def pathOf (usual : Option String) (reading : Reading) : Except Stop (Option String) :=
  match reading.value? .config, usual with
  | some path, _ => .ok (some path)
  | none, some path => do
    Operand.path.check path
    return some path
  | none, none => .ok none

/-- Read the arguments after the name of the program. The usual path of the configuration counts if
no other is given. The faults of a command count before those of the options in front of it. -/
def parse (usual : Option String) (args : List String) : Except Stop Invocation := do
  let (reading, rest) ← programGrammar.scan {} args
  match rest with
  | [] =>
    -- The usual path counts as something that was given.
    let path ← pathOf usual (← reading.settle .program)
    throw (if path.isNone then .nothingGiven else .commandMissing)
  | name :: args =>
    let command ← command name args
    return ⟨← pathOf usual (← reading.settle .program), command⟩

end Uplink.CommandLine
