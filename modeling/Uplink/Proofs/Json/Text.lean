import Uplink.Json.Printer
import Uplink.Json.Reader
import Uplink.Proofs.Text.Digits
import Uplink.Proofs.Text.Hex
import Uplink.Proofs.Toml.Number

/-!
Strings and numbers that are written as JSON are read back, with whatever stands behind them: each
character of a string by itself, and a number up to the first character that cannot stand in one.
-/

namespace Uplink.Json

variable {c : Char} {cs rest : List Char} {n : Nat}

/-! ### Strings -/

/-- A control character is written by its number, and read back as it. -/
theorem unit?_control (control : c < ' ') (rest : List Char) :
    unit? (Text.Hex.digits 4 c.toNat ++ rest) = some (c.toNat, rest) := by
  -- A control character is less than 32, which four digits can write.
  have small : c.toNat < 16 ^ 4 := Nat.lt_trans (Char.lt_def.mp control) (by decide)
  have value := Text.Hex.number?_digits small
  obtain ⟨a, b, d, e, spelled⟩ : ∃ a b d e, Text.Hex.digits 4 c.toNat = [a, b, d, e] := ⟨_, _, _, _, rfl⟩
  rw [spelled] at value ⊢
  simp [unit?, value]

/-- A character of a string is read back as it is written. -/
theorem stringChar?_escape (c : Char) (rest : List Char) : stringChar? (escape c ++ rest) = some (some c, rest) := by
  unfold escape
  split
  -- Any other character is spelled by its number if it is a control character, which is no half of a pair,
  -- and else stands for itself.
  case h_8 quote backslash _ _ _ _ _ =>
    split
    case isTrue control =>
      have low : c.toNat < 0xD800 := Nat.lt_trans (Char.lt_def.mp control) (by decide)
      have high : isHighSurrogate c.toNat = false := by simp [isHighSurrogate]; omega
      have other : isLowSurrogate c.toNat = false := by simp [isLowSurrogate]; omega
      simp [stringChar?, unit?_control control, high, other, Char.ofNat_toNat]
    case isFalse visible =>
      rw [List.singleton_append, stringChar?, if_neg visible]
      · exact quote
      · exact fun _ first => absurd first backslash
      · exact fun _ _ first => absurd first backslash
  all_goals rfl

/-- The characters of a string are read back up to the closing quote. -/
theorem stringRest_flatMap {steps : Nat} (enough : cs.length < steps) (taken rest : List Char) :
    stringRest steps taken (cs.flatMap escape ++ '"' :: rest) = some (String.ofList (taken.reverse ++ cs), rest) := by
  -- Induction on the characters; every one of them takes a step, whatever it is written as.
  induction cs generalizing steps taken with
  | nil =>
    -- The quote ends the string.
    obtain ⟨steps, rfl⟩ := Nat.exists_eq_add_of_lt enough
    simp [stringRest, stringChar?]
  | cons c cs ih =>
    obtain ⟨steps, rfl⟩ : ∃ before, steps = before + 1 := ⟨steps - 1, by omega⟩
    rw [List.length_cons] at enough
    rw [List.flatMap_cons, List.append_assoc, stringRest, stringChar?_escape]
    simp [ih (by omega : cs.length < steps)]

/-- Every character is written as at least one. -/
theorem length_le_flatMap (cs : List Char) : cs.length ≤ (cs.flatMap escape).length := by
  -- Of the ways to write a character none is empty.
  have one (c : Char) : 1 ≤ (escape c).length := by
    unfold escape
    split
    case h_8 => split <;> simp
    all_goals simp
  induction cs with
  | nil => exact Nat.le_refl 0
  | cons c cs ih =>
    have := one c
    simp only [List.length_cons, List.flatMap_cons, List.length_append]
    omega

/-- The text of a string is read back after its opening quote. -/
theorem stringRest_quote (text : String) (rest : List Char) :
    ∃ body, quote text ++ rest = '"' :: body ∧ stringRest (body.length + 1) [] body = some (text, rest) := by
  -- One step for each character that is written, and there are at least as many as characters of the text.
  refine ⟨text.toList.flatMap escape ++ '"' :: rest, by simp [quote], ?_⟩
  have enough : text.toList.length < (text.toList.flatMap escape ++ '"' :: rest).length + 1 := by
    have := length_le_flatMap text.toList
    rw [List.length_append]
    omega
  simpa using stringRest_flatMap enough [] rest

/-! ### Numbers -/

/-- Digits stand for a natural number. -/
theorem natural_toDigits (n : Nat) : natural (Nat.toDigits 10 n) = n :=
  -- The digits of a fraction of a second are read in the same way.
  Instant.natural_toDigits n

/-- The digits of a number have no needless zero in front. -/
theorem isNatural_toDigits (n : Nat) : isNatural (Nat.toDigits 10 n) = true := by
  have digits : (Nat.toDigits 10 n).all Char.isDigit = true :=
    List.all_eq_true.mpr fun _ member => Toml.isDigit_toDigits member
  -- Zero has one digit, and any other number begins with another.
  have single : (Nat.toDigits 10 n).length = 1 ∨ (Nat.toDigits 10 n).head? ≠ some '0' := by
    rcases Nat.eq_zero_or_pos n with rfl | positive
    · exact .inl rfl
    · exact .inr (Toml.head_toDigits positive)
  simp [isNatural, areDigits, digits, single, Nat.toDigits_ne_nil]

/-- The value of an integer that 64 bits hold is read back from its digits. -/
theorem number?_toString {n : Int} (low : Int64.minValue.toInt ≤ n) (high : n < UInt64.size) :
    number? (toString n).toList = some (.int n) := by
  have span (m : Nat) : (Nat.toDigits 10 m).takeWhile Char.isDigit = Nat.toDigits 10 m ∧
      (Nat.toDigits 10 m).dropWhile Char.isDigit = [] := by
    have stops : ∀ c ∈ ([] : List Char).head?, c.isDigit = false := by simp
    have := Text.span_append (fun _ => Toml.isDigit_toDigits (n := m)) stops
    rwa [List.append_nil] at this
  -- The digits of a number are read as a natural number, and its sign says which of the two bounds it has
  -- to keep.
  obtain ⟨m, rfl, spelled⟩ | ⟨m, rfl, spelled⟩ := Toml.toList_toString n
  · have unsigned : (Nat.toDigits 10 m).head? ≠ some '-' := by
      intro minus
      exact absurd (Toml.isDigit_toDigits (List.mem_of_head? minus)) (by decide)
    have fits : m < UInt64.size := by omega
    rw [spelled]
    simp [number?, unsigned, span, isNatural_toDigits, natural_toDigits, isNumberTail, fits]
  · rcases Nat.eq_zero_or_pos m with rfl | positive
    · exact absurd spelled (by decide)
    have fits : m ≤ 9223372036854775808 := by
      have : Int64.minValue.toInt = -9223372036854775808 := by decide
      omega
    rw [spelled]
    simp [number?, span, isNatural_toDigits, natural_toDigits, isNumberTail, positive, fits]

/-- Digits can stand in a number. -/
theorem isNumberChar_of_isDigit (digit : c.isDigit = true) : isNumberChar c = true := by
  -- Digits are the first of what the test allows.
  simp [isNumberChar, digit]

/-- Digits can stand in a number, all of them. -/
theorem isNumberChar_of_areDigits (digits : areDigits cs = true) : ∀ c ∈ cs, isNumberChar c = true := by
  -- Each of the digits is one.
  simp only [areDigits, Bool.and_eq_true, List.all_eq_true] at digits
  exact fun c member => isNumberChar_of_isDigit (digits.2 c member)

/-- All of an exponent can stand in a number. -/
theorem isNumberChar_of_isExponent (exponent : isExponent cs = true) : ∀ c ∈ cs, isNumberChar c = true := by
  -- An exponent is a sign and digits, or digits alone.
  unfold isExponent at exponent
  split at exponent
  · exact List.forall_mem_cons.mpr ⟨rfl, isNumberChar_of_areDigits exponent⟩
  · exact List.forall_mem_cons.mpr ⟨rfl, isNumberChar_of_areDigits exponent⟩
  · exact isNumberChar_of_areDigits exponent

/-- All that may follow the integer part of a number can stand in a number. -/
theorem isNumberChar_of_isNumberTail (tail : isNumberTail cs = true) : ∀ c ∈ cs, isNumberChar c = true := by
  have exponent {c : Char} {cs : List Char} (ok : ((c = 'e' || c = 'E') && isExponent cs) = true) :
      ∀ d ∈ c :: cs, isNumberChar d = true := by
    simp only [Bool.and_eq_true, Bool.or_eq_true, decide_eq_true_eq] at ok
    refine List.forall_mem_cons.mpr ⟨?_, isNumberChar_of_isExponent ok.2⟩
    rcases ok.1 with rfl | rfl
    · rfl
    · rfl
  unfold isNumberTail at tail
  -- The tail begins with a point or with the letter of the exponent.
  split at tail
  · rename_i cs
    rw [Bool.and_eq_true] at tail
    refine List.forall_mem_cons.mpr ⟨rfl, ?_⟩
    -- Behind the point stand digits, and behind those an exponent or nothing.
    rw [← List.takeWhile_append_dropWhile (p := Char.isDigit) (l := cs), List.forall_mem_append]
    obtain ⟨whole, ending⟩ := tail
    refine ⟨isNumberChar_of_areDigits whole, ?_⟩
    cases left : cs.dropWhile Char.isDigit with
    | nil => simp
    | cons c rest =>
      rw [left] at ending
      exact exponent ending
  · cases cs with
    | nil => simp
    | cons c rest => exact exponent tail

/-- A number begins with a digit or a minus, and all of it can stand in a number. -/
theorem chars_of_number? {value : Value} (read : number? cs = some value) :
    (∃ c rest, cs = c :: rest ∧ (c.isDigit = true ∨ c = '-')) ∧ ∀ c ∈ cs, isNumberChar c = true := by
  -- The sign is taken off first; what is left begins with digits.
  obtain ⟨body, sign, whole, tail⟩ : ∃ body, (cs = '-' :: body ∨ cs = body) ∧
      isNatural (body.takeWhile Char.isDigit) = true ∧ isNumberTail (body.dropWhile Char.isDigit) = true := by
    simp only [number?, Option.ite_none_left_eq_some, Bool.or_eq_true, Bool.not_eq_true', not_or,
      Bool.not_eq_false] at read
    by_cases minus : cs.head? = some '-'
    · obtain ⟨body, rfl⟩ := List.head?_eq_some_iff.mp minus
      simp only [minus, if_true, List.drop_succ_cons, List.drop_zero] at read
      exact ⟨body, .inl rfl, read.1⟩
    · simp only [minus, if_false] at read
      exact ⟨cs, .inr rfl, read.1⟩
  simp only [isNatural, Bool.and_eq_true] at whole
  have all : ∀ c ∈ body, isNumberChar c = true := by
    rw [← List.takeWhile_append_dropWhile (p := Char.isDigit) (l := body), List.forall_mem_append]
    exact ⟨isNumberChar_of_areDigits whole.1, isNumberChar_of_isNumberTail tail⟩
  -- With the minus in front or without it, the first character is as it should be.
  rcases sign with rfl | rfl
  · exact ⟨⟨_, _, rfl, .inr rfl⟩, List.forall_mem_cons.mpr ⟨rfl, all⟩⟩
  · refine ⟨?_, all⟩
    cases cs with
    | nil => exact absurd whole.1 (by decide)
    | cons c rest =>
      refine ⟨c, rest, rfl, .inl ?_⟩
      by_contra other
      simp [other, areDigits] at whole

end Uplink.Json
