/-!
Hexadecimal digits, and bytes written as two of them each.
-/

namespace Uplink.Text.Hex

/-- The lower-case digit of a number below 16. -/
def digit (n : Nat) : Char :=
  if n < 10 then Char.ofNat ('0'.toNat + n) else Char.ofNat ('a'.toNat + (n - 10))

/-- The upper-case digit of a number below 16. -/
def capitalDigit (n : Nat) : Char :=
  if n < 10 then Char.ofNat ('0'.toNat + n) else Char.ofNat ('A'.toNat + (n - 10))

/-- The number that a digit of either case stands for. -/
def digitValue? (c : Char) : Option Nat :=
  if '0' ≤ c ∧ c ≤ '9' then some (c.toNat - '0'.toNat)
  else if 'a' ≤ c ∧ c ≤ 'f' then some (c.toNat - 'a'.toNat + 10)
  else if 'A' ≤ c ∧ c ≤ 'F' then some (c.toNat - 'A'.toNat + 10)
  else none

/-- So many digits of a number, the most significant first. -/
def digits : Nat → Nat → List Char
  | 0, _ => []
  | width + 1, n => digits width (n / 16) ++ [digit (n % 16)]

/-- As few digits of a number as show it, but at least one. -/
def shortDigits (n : Nat) : List Char :=
  let cs := (digits 8 n).dropWhile (· = '0')
  if cs.isEmpty then ['0'] else cs

/-- The number that a line of digits stands for. -/
def number? (cs : List Char) : Option Nat :=
  cs.foldl (fun n c => do return (← n) * 16 + (← digitValue? c)) (some 0)

/-- Bytes, two digits each. -/
def ofBytes (bytes : ByteArray) : String :=
  String.ofList (bytes.toList.flatMap fun byte => digits 2 byte.toNat)

/-- The bytes that pairs of digits stand for. -/
def bytes? : List Char → Option (List UInt8)
  | [] => some []
  | [_] => none
  | high :: low :: rest => do
    let h ← digitValue? high
    let l ← digitValue? low
    return UInt8.ofNat (h * 16 + l) :: (← bytes? rest)

end Uplink.Text.Hex
