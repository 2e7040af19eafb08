import Mathlib.Algebra.Ring.Nat
import Mathlib.Data.List.Induction
import Uplink.Text.Hex

/-!
Hexadecimal digits stand for their number, in either case, and nothing else of their length does.
-/

namespace Uplink.Text.Hex

variable {c : Char} {cs : List Char} {n : Nat}

/-- Only characters of one byte are digits. -/
theorem lt_of_digitValue? (read : digitValue? c = some n) : c.toNat < 128 := by
  -- The three ranges of digits all end below 128.
  unfold digitValue? at read
  split at read
  case isTrue range => exact Nat.lt_of_le_of_lt (Char.le_def.mp range.2) (by decide)
  split at read
  case isTrue range => exact Nat.lt_of_le_of_lt (Char.le_def.mp range.2) (by decide)
  split at read
  case isTrue range => exact Nat.lt_of_le_of_lt (Char.le_def.mp range.2) (by decide)
  cases read

/-- Only characters of one byte are the same as one of these but for their case. -/
theorem lt_of_toLower (lower : c.toLower.toNat < 128) : c.toNat < 128 := by
  -- Only capital letters are changed, and they are below 128.
  unfold Char.toLower at lower
  split at lower
  case isTrue range => exact Nat.lt_of_le_of_lt (UInt32.le_iff_toNat_le.mp range.2) (by decide)
  case isFalse => exact lower

/-- The digit of a number stands for it, in either case. -/
theorem digitValue?_eq_some : digitValue? c = some n ↔ n < 16 ∧ c.toLower = digit n := by
  -- Below 128 there are few enough characters to look at each.
  have small : ∀ code < 128, (digitValue? (Char.ofNat code)).all (· < 16) = true := by decide
  have table : ∀ code < 128, ∀ n < 16,
      digitValue? (Char.ofNat code) = some n ↔ (Char.ofNat code).toLower = digit n := by
    decide
  have narrow : ∀ n < 16, (digit n).toNat < 128 := by decide
  -- On both sides the character is one of those.
  constructor
  · intro read
    have code := lt_of_digitValue? read
    have value : n < 16 := by simpa [Char.ofNat_toNat, read] using small c.toNat code
    exact ⟨value, by simpa [Char.ofNat_toNat, read] using table c.toNat code n value⟩
  · rintro ⟨value, lower⟩
    have code : c.toNat < 128 := lt_of_toLower (lower ▸ narrow n value)
    simpa [Char.ofNat_toNat, lower] using table c.toNat code n value

/-- The last digit counts once, and those before it sixteen times. -/
theorem number?_concat (cs : List Char) (c : Char) :
    number? (cs ++ [c]) = (number? cs).bind fun high => (digitValue? c).bind fun low => some (high * 16 + low) := by
  -- The fold over the digits takes the last one last.
  rw [number?, List.foldl_append]
  rfl

/-- The digits of a number are as many as they are asked to be. -/
@[simp]
theorem length_digits (width n : Nat) : (digits width n).length = width := by
  -- Each step writes one digit.
  induction width generalizing n with
  | zero => rfl
  | succ width ih => simp [digits, ih]

/-- Digits stand for a number if they are its digits but for their case. -/
theorem number?_eq_some : number? cs = some n ↔ n < 16 ^ cs.length ∧ cs.map Char.toLower = digits cs.length n := by
  -- Induction from the last digit, which is the remainder of the number.
  induction cs using List.reverseRecOn generalizing n with
  | nil => simp [number?, digits, eq_comm]
  | append_singleton cs c ih =>
    simp only [number?_concat, Option.bind_eq_some_iff, ih, digitValue?_eq_some, List.length_append,
      List.length_singleton, List.map_append, List.map_singleton, digits, Option.some.injEq]
    constructor
    · rintro ⟨high, ⟨below, front⟩, low, ⟨small, last⟩, rfl⟩
      rw [show (high * 16 + low) / 16 = high by omega, show (high * 16 + low) % 16 = low by omega, front, last]
      exact ⟨by rw [Nat.pow_succ]; omega, rfl⟩
    · rintro ⟨below, same⟩
      obtain ⟨front, last⟩ := List.append_inj' same rfl
      rw [Nat.pow_succ] at below
      exact ⟨n / 16, ⟨by omega, front⟩, n % 16, ⟨by omega, List.head_eq_of_cons_eq last⟩, by omega⟩

/-- The digits of a number are in lower case. -/
theorem toLower_digits (width n : Nat) : (digits width n).map Char.toLower = digits width n := by
  -- Induction on the width; of the sixteen digits each is in lower case.
  induction width generalizing n with
  | zero => rfl
  | succ width ih =>
    have lower : ∀ low < 16, (digit low).toLower = digit low := by decide
    simp [digits, ih, lower (n % 16) (by omega)]

/-- The digits of a number stand for it. -/
theorem number?_digits {width : Nat} (fits : n < 16 ^ width) : number? (digits width n) = some n :=
  -- Their value is the only number that has these digits.
  number?_eq_some.mpr (by simpa [toLower_digits] using fits)

end Uplink.Text.Hex
