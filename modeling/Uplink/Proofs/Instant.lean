import Mathlib.Data.List.Basic
import Uplink.Proofs.Date
import Uplink.Proofs.Text.Digits

/-!
The written forms of an instant: its date and time of day at any offset from UTC, with any fraction of
the second that loses nothing. All of them are read as the instant, and what is read from any text can
be written again.
-/

namespace Uplink.Instant

variable {cs ds rest : List Char} {n width : Nat}

/-! ### Parts of a text -/

/-- The digits of a number are read up to the width, or to a character of another kind. -/
theorem number?_append (digits : ∀ d ∈ ds, d.isDigit = true) (some : ds ≠ []) (fits : ds.length ≤ width)
    (stops : ds.length = width ∨ ∀ c ∈ rest.head?, c.isDigit = false) :
    number? width (ds ++ rest) = .some (natural ds, rest) := by
  -- The digits end where the width is used up, or before a character that is no digit.
  have taken : ((ds ++ rest).take width).takeWhile Char.isDigit = ds := by
    rw [List.take_append, List.take_of_length_le fits]
    refine (Text.span_append digits fun c first => ?_).1
    rcases stops with full | other
    · simp [full] at first
    · refine other c ?_
      cases rest with
      | nil => simp at first
      | cons d rest =>
        rw [List.head?_take] at first
        split at first
        · cases first
        · exact first
  simp [number?, taken, some]

/-- Blanks in front are skipped, and nothing else. -/
theorem skipBlank_eq (stops : ∀ c ∈ cs.head?, Text.isBlank c = false) : skipBlank cs = cs := by
  -- The blanks in front are an empty list.
  have none : ∀ c ∈ ([] : List Char), Text.isBlank c = true := by simp
  exact (Text.span_append none stops).2

/-- A digit is no blank. -/
theorem isBlank_of_isDigit {d : Char} (digit : d.isDigit = true) : Text.isBlank d = false := by
  -- Digits lie between 48 and 57, and blanks below or above.
  simp only [Char.isDigit, Bool.and_eq_true, decide_eq_true_eq] at digit
  have low : 48 ≤ d.toNat := UInt32.le_iff_toNat_le.mp digit.1
  have high : d.toNat ≤ 57 := UInt32.le_iff_toNat_le.mp digit.2
  simp [Text.isBlank]
  omega

/-- A padded number begins with a digit. -/
theorem padded_eq_cons (width n : Nat) : ∃ d ds, padded width n = d :: ds ∧ d.isDigit = true := by
  -- At least one digit is written, and all that is written are digits.
  cases spelled : padded width n with
  | nil => exact absurd spelled (padded_ne_nil width n)
  | cons d ds => exact ⟨d, ds, rfl, isDigit_padded (spelled ▸ List.mem_cons_self)⟩

/-- No blanks stand before a padded number. -/
theorem skipBlank_padded (width n : Nat) (rest : List Char) :
    skipBlank (padded width n ++ rest) = padded width n ++ rest := by
  -- What follows begins with a digit.
  obtain ⟨d, ds, spelled, digit⟩ := padded_eq_cons width n
  exact skipBlank_eq (by simpa [spelled] using isBlank_of_isDigit digit)

/-- A number of two digits is read as it is written. -/
@[simp]
theorem number?_padded (fits : n < 100) (rest : List Char) :
    number? 2 (skipBlank (padded 2 n ++ rest)) = some (n, rest) := by
  -- Both digits are taken, as there are no more of them and no third is asked for.
  have length : (padded 2 n).length = 2 := length_padded (by decide) fits
  rw [skipBlank_padded, number?_append (fun _ => isDigit_padded) (padded_ne_nil 2 n) length.le (.inl length),
    natural_padded]

/-- A mark is read where it stands. -/
@[simp]
theorem mark?_self {mark : Char} (visible : Text.isBlank mark = false) (rest : List Char) :
    mark? mark (mark :: rest) = some rest := by
  -- There is nothing to skip, and the mark is the next character.
  rw [mark?, skipBlank_eq (by simpa using visible)]
  simp

/-- A year is read as it is written, up to the hyphen after it. -/
theorem year?_yearChars (year : Int) (rest : List Char) :
    year? (skipBlank (yearChars year ++ '-' :: rest)) = some (year, '-' :: rest) := by
  unfold yearChars
  have digits (n width : Nat) (fits : (padded 4 n).length ≤ width) :
      number? width (padded 4 n ++ '-' :: rest) = some (n, '-' :: rest) := by
    rw [number?_append (fun _ => isDigit_padded) (padded_ne_nil 4 n) fits (.inr (by simp)), natural_padded]
  -- Years of four digits stand without a sign, and the reader takes four digits; others have a sign, and it
  -- takes all of them.
  split
  · rename_i range
    have length : (padded 4 year.toNat).length = 4 := length_padded (by decide) (by omega)
    obtain ⟨d, ds, spelled, digit⟩ := padded_eq_cons 4 year.toNat
    rw [skipBlank_padded]
    have read := digits year.toNat 4 length.le
    rw [spelled] at read ⊢
    unfold year?
    split
    · rename_i minus
      cases minus
      exact absurd digit (by decide)
    · rename_i plus
      cases plus
      exact absurd digit (by decide)
    · rw [read]
      simp
      omega
  · split
    · -- With a minus the number is taken off zero.
      rw [List.cons_append, skipBlank_eq (by simp; decide)]
      have read := digits year.natAbs (padded 4 year.natAbs ++ '-' :: rest).length (by simp)
      simp only [year?, Option.bind_eq_bind, read, Option.bind_some, Option.pure_def, Option.some.injEq, Prod.mk.injEq,
        and_true]
      omega
    · -- With a plus it is the year as it is.
      rw [List.cons_append, skipBlank_eq (by simp; decide)]
      have read := digits year.toNat (padded 4 year.toNat ++ '-' :: rest).length (by simp)
      simp only [year?, Option.bind_eq_bind, read, Option.bind_some, Option.pure_def, Option.some.injEq, Prod.mk.injEq,
        and_true]
      omega

/-- The written form of a date. -/
def dateChars (date : Date) : List Char :=
  yearChars date.year ++ '-' :: padded 2 date.month ++ '-' :: padded 2 date.day

/-- Months and days of the calendar have two digits at most. -/
theorem lt_of_isValid {date : Date} (valid : date.isValid = true) : date.month < 100 ∧ date.day < 100 := by
  -- A month is at most 12, and a day is at most the length of its month.
  simp only [Date.isValid, Bool.and_eq_true, decide_eq_true_eq] at valid
  obtain ⟨⟨⟨-, month⟩, -⟩, day⟩ := valid
  have longest : Date.monthLength date.year date.month ≤ 31 := by
    unfold Date.monthLength
    split
    · split <;> omega
    all_goals omega
  omega

/-- A date is read as it is written. -/
theorem date?_dateChars {date : Date} (valid : date.isValid = true) (rest : List Char) :
    date? (dateChars date ++ rest) = some (date, rest) := by
  -- The fields are read one after the other, each up to its mark.
  obtain ⟨month, day⟩ := lt_of_isValid valid
  have hyphen := mark?_self (by decide : Text.isBlank '-' = false)
  simp [date?, dateChars, year?_yearChars, hyphen, month, day]

/-- The written form of a time of day without its fraction. -/
def timeChars (second inserted : Nat) : List Char :=
  padded 2 (second / 3600) ++ ':' :: padded 2 (second / 60 % 60) ++ ':' :: padded 2 (second % 60 + inserted)

/-- The text is a fraction of a second: none, or digits that make so many nanoseconds. -/
inductive FractionText (nanos : Nat) : List Char → Prop where
  | none : nanos = 0 → FractionText nanos []
  | digits {ds : List Char} : ds ≠ [] → (∀ d ∈ ds, d.isDigit = true) →
      natural ds * 10 ^ 9 = nanos * 10 ^ ds.length → FractionText nanos ('.' :: ds)

/-- The nine digits that count make the nanoseconds, if those after them are of no account. -/
theorem natural_take {nanos : Nat} (digits : ∀ d ∈ ds, d.isDigit = true)
    (exactly : natural ds * 10 ^ 9 = nanos * 10 ^ ds.length) :
    natural (ds.take 9) * Nat.pow 10 (9 - (ds.take 9).length) = nanos := by
  rcases Nat.le_total ds.length 9 with few | many
  · -- With nine digits or fewer all of them are taken, and scaled up.
    rw [List.take_of_length_le few]
    have split : (10 : Nat) ^ 9 = 10 ^ (9 - ds.length) * 10 ^ ds.length := by
      rw [← Nat.pow_add, Nat.sub_add_cancel few]
    rw [split, ← Nat.mul_assoc] at exactly
    exact Nat.eq_of_mul_eq_mul_right (Nat.pow_pos (by decide)) exactly
  · have kept : (ds.take 9).length = 9 := by simpa using many
    -- What stands behind the ninth digit is less than one of its units.
    have below : natural (ds.drop 9) < 10 ^ (ds.length - 9) := by
      simpa using natural_lt fun d member => digits d (List.mem_of_mem_drop member)
    have whole : natural ds = natural (ds.take 9) * 10 ^ (ds.length - 9) + natural (ds.drop 9) := by
      have := natural_append (ds.take 9) (ds.drop 9)
      rwa [List.take_append_drop, List.length_drop] at this
    have split : (10 : Nat) ^ ds.length = 10 ^ (ds.length - 9) * 10 ^ 9 := by
      rw [← Nat.pow_add, Nat.sub_add_cancel many]
    rw [split, ← Nat.mul_assoc] at exactly
    -- Dividing by that unit leaves the digits that were taken.
    have cancelled := Nat.eq_of_mul_eq_mul_right (by decide) exactly
    have quotient := congrArg (· / 10 ^ (ds.length - 9)) (whole.symm.trans cancelled)
    simp only [Nat.mul_div_left _ (Nat.pow_pos (by decide : 0 < 10))] at quotient
    rw [Nat.add_comm, Nat.add_mul_div_right _ _ (Nat.pow_pos (by decide)), Nat.div_eq_of_lt below] at quotient
    simpa [kept] using quotient

/-- A fraction is read as it is written, with any number of digits. -/
theorem fraction?_append {nanos : Nat} (fraction : FractionText nanos cs)
    (stops : ∀ c ∈ rest.head?, c.isDigit = false ∧ c ≠ '.') : fraction? (cs ++ rest) = some (nanos, rest) := by
  cases fraction with
  -- Without a fraction there is no dot, which would begin one.
  | none zero =>
    subst zero
    unfold fraction?
    split
    · exact absurd rfl (stops '.' (by simp_all)).2
    · rfl
  -- The digits end where no digit follows, and what is kept of them is the number of nanoseconds.
  | @digits ds nonempty digits exactly =>
    obtain ⟨taken, -⟩ := Text.span_append digits fun c first => (stops c first).1
    simpa [fraction?, taken, nonempty] using natural_take digits exactly

/-- A time of day is read as it is written. -/
theorem time?_timeChars {second inserted nanos : Nat} (inDay : second < 86400) (atMost : inserted ≤ 1)
    (last : inserted = 1 → second % 60 = 59) (fraction : FractionText nanos cs)
    (stops : ∀ c ∈ rest.head?, c.isDigit = false ∧ c ≠ '.') :
    time? (timeChars second inserted ++ (cs ++ rest)) = some ((second, nanos + inserted * 1000000000), rest) := by
  have hour : second / 3600 < 24 := by omega
  have minute : second / 60 % 60 < 60 := by omega
  have atLast : second % 60 + inserted ≤ 60 := by omega
  have colon := mark?_self (by decide : Text.isBlank ':' = false)
  have parts := fraction?_append fraction stops
  simp [time?, timeChars, colon, parts, (by omega : second / 3600 < 100), (by omega : second / 60 % 60 < 100),
    (by omega : second % 60 + inserted < 100), hour, minute, atLast]
  -- The sixtieth second is the inserted one: without it the second of a minute stays below sixty.
  have sixtieth : (if second % 60 + inserted = 60 then 1 else 0) = inserted := by
    split
    · omega
    · omega
  constructor
  · omega
  · split
    · omega
    · omega

/-- The text is an offset from UTC of so many seconds: a name for none, or hours and minutes with a sign. -/
inductive OffsetText : Int → List Char → Prop where
  | utc : OffsetText 0 ['Z']
  | east {hours minutes : Nat} : hours < 24 → minutes < 60 →
      OffsetText (hours * 3600 + minutes * 60) ('+' :: padded 2 hours ++ ':' :: padded 2 minutes)
  | west {hours minutes : Nat} : hours < 24 → minutes < 60 →
      OffsetText (-(hours * 3600 + minutes * 60)) ('-' :: padded 2 hours ++ ':' :: padded 2 minutes)

/-- A number of two digits, by its digits. -/
theorem padded_two (fits : n < 100) :
    ∃ tens ones, padded 2 n = [tens, ones] ∧ tens.isDigit = true ∧ ones.isDigit = true ∧ natural [tens, ones] = n := by
  -- A list of two characters has these two.
  obtain ⟨tens, ones, spelled⟩ := List.length_eq_two.mp (length_padded (by decide) fits)
  have digits : ∀ d ∈ [tens, ones], d.isDigit = true := fun d member => isDigit_padded (spelled ▸ member)
  exact ⟨tens, ones, spelled, digits tens (by simp), digits ones (by simp), spelled ▸ natural_padded 2 n⟩

/-- Hours and minutes with a sign are read as they are written. -/
theorem offset?_signed {sign : Char} (signed : sign = '+' ∨ sign = '-') {hours minutes : Nat} (inDay : hours < 24)
    (inHour : minutes < 60) :
    offset? (sign :: padded 2 hours ++ ':' :: padded 2 minutes) =
      some (if sign = '+' then (hours * 3600 + minutes * 60 : Int) else -(hours * 3600 + minutes * 60), []) := by
  obtain ⟨h, i, hoursSpelled, hDigit, iDigit, hoursValue⟩ := padded_two (by omega : hours < 100)
  obtain ⟨m, n, minutesSpelled, mDigit, nDigit, minutesValue⟩ := padded_two (by omega : minutes < 100)
  -- Less than sixty minutes begin with a digit below six.
  have mSmall : m < '6' := by
    simp only [natural, List.foldl_cons, List.foldl_nil] at minutesValue
    refine Nat.lt_of_not_le fun (large : 54 ≤ m.toNat) => ?_
    have : '0'.toNat = 48 := rfl
    omega
  -- The reader passes over one colon, and stops at the digit behind it.
  have mStops : ¬ (m = ':' ∨ Text.isBlank m = true) := by
    rintro (rfl | blank)
    · exact absurd mDigit (by decide)
    · exact absurd blank (by simp [isBlank_of_isDigit mDigit])
  have size : (hours * 3600 + minutes * 60 : Int) < 86400 := by omega
  rw [hoursSpelled, minutesSpelled]
  rcases signed with rfl | rfl
  · simp [offset?, hDigit, iDigit, mDigit, nDigit, mSmall, mStops, hoursValue, minutesValue, size]
  · simp [offset?, hDigit, iDigit, mDigit, nDigit, mSmall, mStops, hoursValue, minutesValue, size]

/-- An offset is read as it is written. -/
theorem offset?_eq {offset : Int} (text : OffsetText offset cs) : offset? cs = some (offset, []) := by
  -- One case for each way to write an offset.
  cases text with
  | utc => rfl
  | east inDay inHour => exact offset?_signed (.inl rfl) inDay inHour
  | west inDay inHour => exact offset?_signed (.inr rfl) inDay inHour

/-- The written form of a date and a time of day at the number of a second, without its fraction. -/
def localChars (seconds : Int) (inserted : Nat) : List Char :=
  dateChars (Date.ofDays (seconds / 86400)) ++ 'T' :: timeChars (seconds % 86400).toNat inserted

/-- An instant of a clock: a second that is inserted is the last one of a minute, and the year can be
shown. -/
structure IsValid (instant : Instant) : Prop where
  nanos : instant.nanos < 1000000000 ∨ instant.nanos < 2000000000 ∧ instant.seconds % 60 = 59
  inRange : inRange (Date.ofDays (instant.seconds / 86400)) = true

/-- The text is a written form of the instant, as a clock shows it that is ahead of UTC by an offset. -/
def Spells (instant : Instant) (text : String) : Prop :=
  ∃ offset fraction ending, FractionText (instant.nanos % 1000000000) fraction ∧ OffsetText offset ending ∧
    inRange (Date.ofDays ((instant.seconds + offset) / 86400)) = true ∧
    text.toList = localChars (instant.seconds + offset) (instant.nanos / 1000000000) ++ (fraction ++ ending)

/-- An instant is read from each of its written forms. -/
theorem parse?_of_spells {instant : Instant} (valid : instant.IsValid) {text : String} (spells : instant.Spells text) :
    parse? text = some instant := by
  obtain ⟨offset, fraction, ending, fractionText, offsetText, inRange, spelled⟩ := spells
  have minutes : offset % 60 = 0 := by
    cases offsetText <;> omega
  -- The number of the second tells the day and the time of day that the clock shows.
  obtain ⟨second, number⟩ : ∃ second, second = ((instant.seconds + offset) % 86400).toNat := ⟨_, rfl⟩
  have inserted : instant.nanos / 1000000000 ≤ 1 ∧ (instant.nanos / 1000000000 = 1 → second % 60 = 59) := by
    have := valid.nanos
    omega
  -- Neither the fraction nor the offset can be read further than it was written.
  have stops : ∀ c ∈ ending.head?, c.isDigit = false ∧ c ≠ '.' := by
    cases offsetText <;> simp
  have day := date?_dateChars (Date.isValid_ofDays ((instant.seconds + offset) / 86400))
  have time := time?_timeChars (by omega : second < 86400) inserted.1 inserted.2 fractionText stops
  have ended : skipBlank ending = ending := by
    refine skipBlank_eq ?_
    cases offsetText <;> simp <;> decide
  have whole : (instant.seconds + offset) / 86400 * 86400 + second - offset = instant.seconds := by omega
  have nanos : instant.nanos % 1000000000 + instant.nanos / 1000000000 * 1000000000 = instant.nanos := by omega
  have done : skipBlank [] = [] := rfl
  rw [parse?, spelled, localChars, ← number]
  simp [day, time, separator?, ended, offset?_eq offsetText, whole, nanos, inRange, valid.inRange, done,
    Date.isValid_ofDays]

end Uplink.Instant
