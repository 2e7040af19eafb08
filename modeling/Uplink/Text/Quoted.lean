import Uplink.Text.Hex
import Uplink.Text.Hidden

/-!
Texts between quotes, as messages to people show them: a quote, a backslash and the usual controls
have a letter after a backslash, and every other character that cannot be seen is shown by its
number.
-/

namespace Uplink.Text

/-- A character as it stands between quotes. -/
def quotedChar (c : Char) : List Char :=
  match c with
  | '\x00' => ['\\', '0']
  | '\t' => ['\\', 't']
  | '\r' => ['\\', 'r']
  | '\n' => ['\\', 'n']
  | '"' => ['\\', '"']
  | '\\' => ['\\', '\\']
  | c => if Hidden.contains c then ['\\', 'u', '\x7b'] ++ Hex.shortDigits c.toNat ++ ['\x7d'] else [c]

/-- A text between quotes. -/
def quoted (text : String) : String :=
  String.ofList ('"' :: text.toList.flatMap quotedChar ++ ['"'])

end Uplink.Text
