import Mathlib.Data.List.Induction
import Mathlib.Tactic.Ring
import Uplink.Instant

/-!
Decimal digits: what they stand for, and where a reader that takes as many as there are stops.
-/

namespace Uplink

namespace Text

variable {p : Char → Bool} {cs rest : List Char}

/-- A reader that takes characters of a kind stops at the first of another kind. -/
theorem span_append (kind : ∀ c ∈ cs, p c = true) (stops : ∀ c ∈ rest.head?, p c = false) :
    (cs ++ rest).takeWhile p = cs ∧ (cs ++ rest).dropWhile p = rest := by
  -- All of the first list is taken; what comes next ends the taking, or there is nothing.
  rw [List.takeWhile_append_of_pos kind, List.dropWhile_append_of_pos kind]
  cases rest with
  | nil => simp
  | cons c rest => simp [stops c rfl]

end Text

namespace Instant

variable {cs ds : List Char} {n width : Nat}

/-- Digits before others count as often as these go. -/
theorem natural_append (cs ds : List Char) : natural (cs ++ ds) = natural cs * 10 ^ ds.length + natural ds := by
  -- Induction from the end, where the last digit is added.
  induction ds using List.reverseRecOn with
  | nil => simp [natural]
  | append_singleton ds d ih =>
    have last (cs : List Char) : natural (cs ++ [d]) = natural cs * 10 + (d.toNat - '0'.toNat) := by
      simp [natural]
    rw [← List.append_assoc, last, last, ih, List.length_append, List.length_singleton, Nat.pow_succ]
    ring

/-- A digit stands for less than ten. -/
theorem value_lt {d : Char} (digit : d.isDigit = true) : d.toNat - '0'.toNat < 10 := by
  -- The codes of the digits lie side by side, from zero to nine.
  have most : d.toNat ≤ '9'.toNat := by
    simp only [Char.isDigit, Bool.and_eq_true, decide_eq_true_eq] at digit
    exact UInt32.le_iff_toNat_le.mp digit.2
  have : '9'.toNat - '0'.toNat < 10 := by decide
  omega

/-- Digits stand for a number that needs no more of them. -/
theorem natural_lt (digits : ∀ d ∈ ds, d.isDigit = true) : natural ds < 10 ^ ds.length := by
  -- Induction from the end: one digit more is one factor of ten more.
  induction ds using List.reverseRecOn with
  | nil => exact Nat.one_pos
  | append_singleton ds d ih =>
    rw [List.forall_mem_append, List.forall_mem_singleton] at digits
    have last : natural [d] < 10 := by simpa [natural] using value_lt digits.2
    have others := ih digits.1
    rw [natural_append, List.length_append, List.length_singleton, Nat.pow_succ]
    omega

/-- The digits of a number stand for it. -/
@[simp]
theorem natural_toDigits (n : Nat) : natural (Nat.toDigits 10 n) = n := by
  -- The library reads digits by the same fold, with the factors the other way round.
  have value := Nat.ofDigitChars_ten_toDigits (n := n)
  rw [Nat.ofDigitChars_eq_foldl] at value
  simpa only [natural, Nat.mul_comm] using value

/-- Zeros in front do not count. -/
@[simp]
theorem natural_padded (width n : Nat) : natural (padded width n) = n := by
  -- The padding is a row of zeros, and those stand for zero.
  have zeros : ∀ count, natural (List.replicate count '0') = 0 := by
    intro count
    induction count with
    | zero => rfl
    | succ count ih => simpa [natural, List.replicate_succ] using ih
  rw [padded, natural_append, zeros, natural_toDigits]
  simp

/-- A number is padded to the width, if it does not need more digits. -/
theorem length_padded (positive : 0 < width) (fits : n < 10 ^ width) : (padded width n).length = width := by
  -- The zeros are as many as the digits are short of the width.
  have := (Nat.length_toDigits_le_iff (by decide) positive).mpr fits
  simp only [padded, List.length_append, List.length_replicate]
  omega

/-- A padded number is made of digits. -/
theorem isDigit_padded {d : Char} (member : d ∈ padded width n) : d.isDigit = true := by
  -- What is in front are zeros, and what is behind are the digits of the number.
  rcases List.mem_append.mp member with zero | digit
  · rw [List.eq_of_mem_replicate zero]
    rfl
  · exact Nat.isDigit_of_mem_toDigits (by decide) (by decide) digit

/-- A padded number has a digit. -/
theorem padded_ne_nil (width n : Nat) : padded width n ≠ [] := by
  -- Even zero has a digit.
  simp [padded, Nat.toDigits_ne_nil]

end Instant

end Uplink
