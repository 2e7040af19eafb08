import Uplink.Text.Hex

/-!
Universally unique identifiers: 128 bits with a written form of 32 hexadecimal digits.

They are written in lower case with hyphens. Reading takes four forms: with hyphens, the 32 digits
alone, with `urn:uuid:` in front, and in braces, each with digits of either case.
-/

namespace Uplink

/-- An identifier of 128 bits. -/
structure Uuid where
  value : BitVec 128
deriving Repr, DecidableEq

namespace Uuid

/-- The lengths of the groups that hyphens separate. -/
def groups : List Nat := [8, 4, 4, 4, 12]

/-- Hyphens between groups of the given lengths. -/
def hyphenate : List Nat → List Char → List Char
  | [], cs => cs
  | [_], cs => cs
  | n :: ns, cs => cs.take n ++ '-' :: hyphenate ns (cs.drop n)

/-- Groups of the given lengths with a hyphen between each two, without their hyphens. -/
def ungroup? : List Nat → List Char → Option (List Char)
  | [], cs => if cs.isEmpty then some [] else none
  | [n], cs => if cs.length = n then some cs else none
  | n :: ns, cs =>
    match cs.drop n with
    | '-' :: rest => (ungroup? ns rest).map (cs.take n ++ ·)
    | _ => none

/-- The written form. -/
def render (uuid : Uuid) : String :=
  String.ofList (hyphenate groups (Text.Hex.digits 32 uuid.value.toNat))

/-- The identifier of 32 digits. -/
def ofDigits? (cs : List Char) : Option Uuid :=
  if cs.length = 32 then (Text.Hex.number? cs).map fun n => ⟨BitVec.ofNat 128 n⟩ else none

/-- The 32 digits of any accepted form, of which the hyphens, the braces and the name of the form
are taken away. -/
def bare? (cs : List Char) : Option (List Char) :=
  let urn := "urn:uuid:".toList
  -- The length tells two of the forms, and what stands in front tells the others.
  if cs.length = 32 then some cs
  else if cs.length = 36 then ungroup? groups cs
  else if cs.take urn.length = urn then ungroup? groups (cs.drop urn.length)
  else
    match cs with
    | '\x7b' :: rest => if rest.getLast? = some '\x7d' then ungroup? groups rest.dropLast else none
    | _ => none

/-- Read any of the accepted forms. -/
def parse? (text : String) : Option Uuid :=
  (bare? text.toList).bind ofDigits?

end Uuid

end Uplink
