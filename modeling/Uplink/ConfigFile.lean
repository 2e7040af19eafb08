import Uplink.Codec.Config
import Uplink.Toml.Printer
import Uplink.Toml.Reader

/-!
The configuration as a TOML file: what is read from a file, and what is written for one.

A file that is read has to be a TOML document, of the shape of a configuration, that can be used; the
first of these that fails is reported.
-/

namespace Uplink

/-- Why there are no contents of a file. -/
inductive FileFault where
  | missing
  | directory
  /-- A file stands in the path where a directory should. -/
  | blocked
deriving Repr, DecidableEq

/-- The text that is shown. -/
def FileFault.message : FileFault → String
  | .missing => "No such file or directory (os error 2)"
  | .directory => "Is a directory (os error 21)"
  | .blocked => "Not a directory (os error 20)"

/-- What there is under a path. -/
abbrev FileContents := Except FileFault ByteArray

namespace Config

/-- The configuration that a TOML document spells, whether or not it can be used. -/
def ofDocument (text : String) : Except ConfigError Config :=
  match Toml.parse? text with
  | none => .error .malformed
  | some value => (decode .toml value).mapError .shape

/-- The configuration that a TOML document spells, if it can be used. -/
def ofText (text : String) : Except ConfigError Config := do
  let config ← ofDocument text
  config.validate
  return config

/-- The configuration that a file holds, if it can be used. -/
def ofFile : FileContents → Except ConfigError Config
  | .error fault => .error (.fileRead fault.message)
  | .ok bytes =>
    match String.fromUTF8? bytes with
    | none => .error (.fileRead "stream did not contain valid UTF-8")
    | some text => ofText text

/-- The TOML document of the configuration, unless a number does not fit into one. -/
def toText? (config : Config) : Option String :=
  Toml.render? config.encode

/-- Whether a text is a document of the configuration. -/
def isSpelledBy (config : Config) (text : String) : Bool :=
  match ofDocument text with
  | .ok other => other = config
  | .error _ => false

end Config

end Uplink
