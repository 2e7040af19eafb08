/-!
White space: the characters that have the Unicode property `White_Space`, and trimming by it.
-/

namespace Uplink.Text

/-- Whether a character is white space. -/
def isBlank (c : Char) : Bool :=
  let n := c.toNat
  (0x09 ≤ n && n ≤ 0x0D) || n = 0x20 || n = 0x85 || n = 0xA0 || n = 0x1680 ||
  (0x2000 ≤ n && n ≤ 0x200A) || n = 0x2028 || n = 0x2029 || n = 0x202F || n = 0x205F || n = 0x3000

/-- Whether a text is empty or white space throughout. -/
def isBlankText (text : String) : Bool :=
  text.toList.all isBlank

end Uplink.Text
