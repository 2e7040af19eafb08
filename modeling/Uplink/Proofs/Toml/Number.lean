import Uplink.Toml.Moment
import Uplink.Toml.Number

/-!
An integer that is written can be read back, if 64 bits hold it: its digits end with the line, they
begin with no needless zero, and nothing about them looks like a date or a time.
-/

namespace Uplink.Toml

/-- No number but zero begins with the digit zero. -/
theorem head_toDigits {n : Nat} (positive : 0 < n) : (Nat.toDigits 10 n).head? ≠ some '0' := by
  -- Strong induction, as the digits are taken off at the end: the first is that of a tenth of the number.
  induction n using Nat.strongRecOn with
  | _ n ih =>
    by_cases one : n < 10
    · have : ∀ n < 10, 0 < n → n.digitChar ≠ '0' := by decide
      simpa [Nat.toDigits_of_lt_base one] using this n one positive
    · have shorter := ih (n / 10) (by omega) (by omega)
      rw [Nat.toDigits_of_base_le (by omega) (by omega)]
      cases spelled : Nat.toDigits 10 (n / 10) with
      | nil => exact absurd spelled Nat.toDigits_ne_nil
      | cons d ds => simpa [spelled] using shorter

/-- The digits of a number are digits. -/
theorem isDigit_toDigits {n : Nat} {d : Char} (mem : d ∈ Nat.toDigits 10 n) : d.isDigit = true :=
  -- The base is ten, which the library asks to be within its bounds.
  Nat.isDigit_of_mem_toDigits (by omega) (by omega) mem

/-- The digits of a number stand for it. -/
theorem digitsOf_toDigits (n : Nat) : Decimal.Literal.digitsOf (Nat.toDigits 10 n) = n := by
  -- There is nothing to filter out.
  have digits : (Nat.toDigits 10 n).filter Char.isDigit = Nat.toDigits 10 n :=
    List.filter_eq_self.mpr fun _ => isDigit_toDigits
  have value := Nat.ofDigitChars_ten_toDigits (n := n)
  rw [Nat.ofDigitChars_eq_foldl] at value
  simpa only [Decimal.Literal.digitsOf, digits, Nat.mul_comm] using value

namespace Moment

variable {ds rest more : List Char} {count n : Nat}

/-- Behind some of the digits of a line there is another digit, or the end of the line. -/
theorem mark?_digits (digits : ∀ d ∈ ds, d.isDigit = true) {mark : Char} (other : mark.isDigit = false ∧ mark ≠ '\n')
    (reads : digits? count (ds ++ '\n' :: rest) = some (n, more)) : mark? mark more = none := by
  simp only [digits?, Option.ite_none_right_eq_some, Option.some.injEq, Prod.mk.injEq] at reads
  obtain ⟨⟨-, all⟩, -, rfl⟩ := reads
  -- The digits that were read end before the line does.
  have within : count ≤ ds.length := by
    refine Nat.le_of_not_lt fun beyond => ?_
    have : '\n' ∈ (ds ++ '\n' :: rest).take count := by
      rw [List.take_append, List.mem_append]
      right
      rw [List.take_cons (by omega)]
      exact List.mem_cons_self
    exact absurd (List.all_eq_true.mp all _ this) (by decide)
  rw [List.drop_append_of_le_length within]
  cases behind : ds.drop count with
  | nil => simp [mark?, other.2.symm]
  | cons d others =>
    have digit := digits d (List.mem_of_mem_drop (behind ▸ List.mem_cons_self))
    have : d ≠ mark := by rintro rfl; simp_all
    simp [mark?, this]

/-- The digits of a line begin no date and no time. -/
theorem read?_digits (digits : ∀ d ∈ ds, d.isDigit = true) : read? (ds ++ '\n' :: rest) = none := by
  -- Four digits may be read, but no hyphen follows.
  have date : date? (ds ++ '\n' :: rest) = none := by
    unfold date?
    cases year : digits? 4 (ds ++ '\n' :: rest) with
    | none => rfl
    | some found => simp [mark?_digits digits (by decide : '-'.isDigit = false ∧ '-' ≠ '\n') year]
  -- Two digits may be read, but no colon follows.
  have time : time? (ds ++ '\n' :: rest) = none := by
    unfold time? part?
    cases hour : digits? 2 (ds ++ '\n' :: rest) with
    | none => rfl
    | some found => simp [mark?_digits digits (by decide : ':'.isDigit = false ∧ ':' ≠ '\n') hour]
  simp [read?, date, time]

/-- A sign begins no date and no time. -/
theorem read?_minus (cs : List Char) : read? ('-' :: cs) = none := by
  -- Dates and times begin with digits.
  simp [read?, date?, time?, part?, digits?]

end Moment

namespace Number

/-- Digits are read up to the end of the line. -/
theorem moreDigits?_line {ds : List Char} (digits : ∀ d ∈ ds, d.isDigit = true) (rest : List Char) :
    moreDigits? Char.isDigit (ds ++ '\n' :: rest) = some (ds, '\n' :: rest) := by
  -- Induction on the digits, up to the end of the line.
  induction ds with
  | nil => rfl
  | cons d ds ih =>
    have digit := digits d List.mem_cons_self
    have apart : d ≠ '_' := by rintro rfl; exact absurd digit (by decide)
    have goesOn := ih fun d mem => digits d (List.mem_cons_of_mem _ mem)
    simp [moreDigits?, digit, apart, goesOn]

/-- The digits of a number are read up to the end of the line. -/
theorem natural?_toDigits (n : Nat) (rest : List Char) :
    natural? (Nat.toDigits 10 n ++ '\n' :: rest) = some (Nat.toDigits 10 n, '\n' :: rest) := by
  have digits : ∀ d ∈ Nat.toDigits 10 n, d.isDigit = true := fun _ => isDigit_toDigits
  -- Zero stands alone; any other number begins with another digit.
  obtain rfl | positive := Nat.eq_zero_or_pos n
  · rfl
  cases spelled : Nat.toDigits 10 n with
  | nil => exact absurd spelled Nat.toDigits_ne_nil
  | cons d ds =>
    have zero : d ≠ '0' := by simpa [spelled] using head_toDigits positive
    rw [spelled] at digits
    have goesOn := moreDigits?_line (fun d mem => digits d (List.mem_cons_of_mem _ mem)) rest
    simp [natural?, digits?, zero, digits d List.mem_cons_self, goesOn]

/-- Digits that 64 bits hold stand for their number. -/
theorem integer?_natural {n : Nat} (fits : (n : Int) ≤ Int64.maxValue.toInt) :
    integer? (Nat.toDigits 10 n) = some (.int n) := by
  -- The digits have no sign in front.
  have value : Decimal.Literal.integerOf (Nat.toDigits 10 n) = n := by
    unfold Decimal.Literal.integerOf
    split
    case h_1 cs spelled => exact absurd (isDigit_toDigits (spelled ▸ List.mem_cons_self)) (by decide)
    case h_2 cs spelled => exact absurd (isDigit_toDigits (spelled ▸ List.mem_cons_self)) (by decide)
    case h_3 => rw [digitsOf_toDigits]
  have low : Int64.minValue.toInt ≤ 0 := by decide
  simp only [integer?, value]
  exact if_pos ⟨by omega, fits⟩

/-- Digits after a minus that 64 bits hold stand for their number. -/
theorem integer?_minus {n : Nat} (fits : Int64.minValue.toInt ≤ -(n : Int)) :
    integer? ('-' :: Nat.toDigits 10 n) = some (.int (-n)) := by
  -- Behind the sign the digits stand for the number.
  have value : Decimal.Literal.integerOf ('-' :: Nat.toDigits 10 n) = -(n : Int) := by
    rw [Decimal.Literal.integerOf, digitsOf_toDigits]
  have high : 0 ≤ Int64.maxValue.toInt := by decide
  simp only [integer?, value]
  exact if_pos ⟨fits, by omega⟩

/-- An integer without a sign is read up to the end of the line. -/
theorem read?_natural {n : Nat} (fits : (n : Int) ≤ Int64.maxValue.toInt) (rest : List Char) :
    read? (Nat.toDigits 10 n ++ '\n' :: rest) = some (.int n, '\n' :: rest) := by
  have whole := natural?_toDigits n rest
  have value := integer?_natural fits
  -- Zero is the one number that begins with a zero; the reader takes other such texts for another base.
  obtain rfl | positive := Nat.eq_zero_or_pos n
  · rfl
  cases spelled : Nat.toDigits 10 n with
  | nil => exact absurd spelled Nat.toDigits_ne_nil
  | cons d ds =>
    have zero : d ≠ '0' := by simpa [spelled] using head_toDigits positive
    have digit : d.isDigit = true := isDigit_toDigits (spelled ▸ List.mem_cons_self)
    have plus : d ≠ '+' := by rintro rfl; exact absurd digit (by decide)
    have minus : d ≠ '-' := by rintro rfl; exact absurd digit (by decide)
    rw [spelled] at whole value
    rw [List.cons_append] at whole ⊢
    simp [read?, decimal?, sign, zero, plus, minus, whole, fraction?, exponent?, value]

/-- An integer with a minus is read up to the end of the line. -/
theorem read?_minus {n : Nat} (fits : Int64.minValue.toInt ≤ -(n : Int)) (rest : List Char) :
    read? ('-' :: (Nat.toDigits 10 n ++ '\n' :: rest)) = some (.int (-n), '\n' :: rest) := by
  -- The sign is taken first, then the digits; neither a fraction nor an exponent follows.
  simp [read?, decimal?, sign, natural?_toDigits, fraction?, exponent?, integer?_minus fits]

end Number

/-- An integer is written as its digits, after a minus if it is below zero. -/
theorem toList_toString (n : Int) :
    (∃ m : Nat, n = m ∧ (toString n).toList = Nat.toDigits 10 m) ∨
      ∃ m : Nat, n = -m ∧ (toString n).toList = '-' :: Nat.toDigits 10 m := by
  cases n with
  | ofNat m => exact .inl ⟨m, rfl, Nat.toList_repr⟩
  -- Below zero the number behind the sign is one more than the constructor holds.
  | negSucc m =>
    refine .inr ⟨m + 1, rfl, ?_⟩
    show ("-" ++ Nat.repr (m + 1)).toList = _
    simp

end Uplink.Toml
