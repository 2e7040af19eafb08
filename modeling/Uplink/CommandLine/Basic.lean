import Uplink.Decimal.Literal

/-!
The vocabulary of the command line: the options that can be given in each place, what their values
have to be, and what can end the reading of the arguments.
-/

namespace Uplink.CommandLine

/-- What a help text is about. -/
inductive Topic where
  | program
  | run
  | config
  | help
deriving Repr, DecidableEq

/-- Why no command is carried out: a text was asked for, or the arguments have a fault. -/
inductive Stop where
  | help (topic : Topic)
  | version
  /-- Neither an option nor a command is given. -/
  | nothingGiven
  | commandMissing
  | commandUnknown
  | argumentUnknown
  /-- Two options exclude each other, or one is given twice. -/
  | conflict
  | valueMissing
  | valueMalformed
  /-- A value is attached to an option that takes none. -/
  | valueSurplus
deriving Repr, DecidableEq

/-- The status that the program ends with: 2 if the arguments have a fault. -/
def Stop.status : Stop → UInt8
  | help _ => 0
  | version => 0
  | _ => 2

/-- What can be asked for by an option. -/
inductive Switch where
  | config
  | neverReady
  | associate
  | dropLinkEvery
  | sampleEvery
  | listing
  | help
  | version
deriving Repr, DecidableEq

/-- What the value of an option has to be. -/
inductive Operand where
  /-- Any text that is not empty. -/
  | path
  /-- A number of 64 bits without sign. -/
  | word
deriving Repr, DecidableEq

/-- The spelling of an option. -/
structure Rule where
  switch : Switch
  name : String
  letter : Option Char := none
  /-- What its value has to be, if it takes one. -/
  operand : Option Operand := none
deriving Repr, DecidableEq

/-- The options and commands that can be given in a place. -/
structure Grammar where
  topic : Topic
  rules : List Rule
  commands : List String
deriving Repr, DecidableEq

/-- The option that asks for help. -/
def helpRule : Rule :=
  { switch := .help, name := "help", letter := some 'h' }

/-- What can be given to the program. -/
def programGrammar : Grammar where
  topic := .program
  rules :=
    [ { switch := .config, name := "config", letter := some 'c', operand := some .path }, helpRule,
      { switch := .version, name := "version", letter := some 'V' } ]
  commands := ["run", "config", "help"]

/-- What can be given to the command that runs a simulation. -/
def runGrammar : Grammar where
  topic := .run
  rules :=
    [ { switch := .neverReady, name := "never-ready" },
      { switch := .associate, name := "associate" },
      { switch := .dropLinkEvery, name := "drop-link-every", operand := some .word },
      { switch := .sampleEvery, name := "sample-every", operand := some .word },
      helpRule ]
  commands := []

/-- What can be given to the command that looks at the configuration. -/
def configGrammar : Grammar where
  topic := .config
  rules := [{ switch := .listing, name := "show" }, helpRule]
  commands := []

/-- The number that digits spell, after a plus sign or nothing. -/
def word? (text : String) : Option UInt64 :=
  let digits := match text.toList with
    | '+' :: rest => rest
    | cs => cs
  let n := Decimal.Literal.digitsOf digits
  if !digits.isEmpty && digits.all Char.isDigit && n < UInt64.size then some (UInt64.ofNat n) else none

/-- Whether a text can be the value of an option. -/
def Operand.check (value : String) : Operand → Except Stop Unit
  | .path => if value.isEmpty then .error .valueMissing else .ok ()
  | .word => if (word? value).isNone then .error .valueMalformed else .ok ()

end Uplink.CommandLine
