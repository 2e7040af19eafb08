import Mathlib.Tactic.IntervalCases
import Uplink.Instant

/-!
The calendar counts every day once: the date of a day is one that the calendar has, and its number is
the number of the day.

Both ways go through years that begin in March, in which a day that is added is the last one.
-/

namespace Uplink.Date

/-- The number of the first day of a year that begins in March. -/
def marchStart (year : Int) : Int :=
  365 * year + year / 4 - year / 100 + year / 400 - 719468

/-- A day of a year that begins in March, counted from 0. -/
def ofMarch (year : Int) (dayOfYear : Nat) : Date :=
  let month := (5 * dayOfYear + 2) / 153
  let day := dayOfYear - (153 * month + 2) / 5 + 1
  if month < 10 then ⟨year, month + 3, day⟩ else ⟨year + 1, month - 9, day⟩

/-- A year that begins in March has so many days, counted from 0. -/
def InMarchYear (year : Int) (dayOfYear : Nat) : Prop :=
  dayOfYear < 365 ∨ dayOfYear = 365 ∧ isLeap (year + 1) = true

/-- A day of an era is one of a year of four, of 25 of these, of four centuries. The last year of four
has a day more, but for the last of a century, and for this again but for the last of the era. -/
theorem exists_place {n : Nat} (within : n < 146097) :
    ∃ century four year day, n = 36524 * century + 1461 * four + 365 * year + day ∧
      century ≤ 3 ∧ four ≤ 24 ∧ year ≤ 3 ∧ (day < 365 ∨ day = 365 ∧ year = 3 ∧ (four < 24 ∨ century = 3)) := by
  -- The day is divided three times. A last part that is a day too long goes to the part before it.
  obtain ⟨century, r, rfl, centuries, inCentury⟩ :
      ∃ century r, n = 36524 * century + r ∧ century ≤ 3 ∧ (r < 36524 ∨ r = 36524 ∧ century = 3) :=
    ⟨n / 36524 - n / 146096, n - 36524 * (n / 36524 - n / 146096), by omega, by omega, by omega⟩
  obtain ⟨four, s, rfl, fours, inFour⟩ : ∃ four s, r = 1461 * four + s ∧ four ≤ 24 ∧ s < 1461 :=
    ⟨r / 1461, r % 1461, by omega, by omega, by omega⟩
  obtain ⟨year, day, rfl, years, inYear⟩ :
      ∃ year day, s = 365 * year + day ∧ year ≤ 3 ∧ (day < 365 ∨ day = 365 ∧ year = 3) :=
    ⟨s / 365 - s / 1460, s - 365 * (s / 365 - s / 1460), by omega, by omega, by omega⟩
  exact ⟨century, four, year, day, by omega, centuries, fours, years, by omega⟩

section

variable {n century four year day : Nat} (centuries : century ≤ 3) (fours : four ≤ 24) (years : year ≤ 3)
  (days : day < 365 ∨ day = 365 ∧ year = 3 ∧ (four < 24 ∨ century = 3))
  (place : n = 36524 * century + 1461 * four + 365 * year + day)
include centuries fours years days place

/-- The year of a day of an era. -/
theorem yearOfEra_eq : (n - n / 1460 + n / 36524 - n / 146096) / 365 = 100 * century + 4 * four + year := by
  have ofCentury : n / 36524 = century + n / 146096 := by
    obtain ⟨r, place, inCentury⟩ : ∃ r, n = 36524 * century + r ∧ (r < 36524 ∨ r = 36524 ∧ century = 3) :=
      ⟨1461 * four + 365 * year + day, by omega, by omega⟩
    omega
  -- The days that leap years add up to this one, but for at most one too many.
  have ofFour : n / 1460 = 25 * century + four + (24 * century + four + 365 * year + day) / 1460 := by omega
  have added : (24 * century + four + 365 * year + day) / 1460 = 0 ∧ 24 * century + four + 365 * year + day < 1460 ∨
      (24 * century + four + 365 * year + day) / 1460 = 1 ∧ year = 3 ∧ 0 < day := by omega
  have fewer : n / 1460 ≤ n := Nat.div_le_self n 1460
  have sum : n - n / 1460 + (century + n / 146096) - n / 146096 = n - n / 1460 + century := by omega
  rw [ofCentury, sum, ofFour]
  clear ofCentury sum
  rcases added with ⟨none, small⟩ | ⟨one, last, positive⟩
  · rw [none]
    omega
  · rw [one]
    omega

end

/-- The day of the year that a day of an era is. -/
theorem dayOfYear_eq {n century four year day : Nat} (fours : four ≤ 24) (years : year ≤ 3)
    (place : n = 36524 * century + 1461 * four + 365 * year + day) :
    n - (365 * (100 * century + 4 * four + year) + (100 * century + 4 * four + year) / 4 -
      (100 * century + 4 * four + year) / 100) = day := by
  -- With these bounds the leap days up to the year are the quotients.
  omega

/-- Every day is a day of a year that begins in March. -/
theorem exists_ofMarch (days : Int) :
    ∃ year day, InMarchYear year day ∧ days = marchStart year + day ∧ ofDays days = ofMarch year day := by
  -- Eras of 400 years have all the same number of days; the place within the era gives the year and the
  -- day.
  obtain ⟨n, spelled⟩ : ∃ n : Nat, (n : Int) = (days + 719468) % 146097 :=
    ⟨((days + 719468) % 146097).toNat, by omega⟩
  obtain ⟨century, four, year, day, place, centuries, fours, years, inYear⟩ :=
    exists_place (by omega : n < 146097)
  refine ⟨(days + 719468) / 146097 * 400 + (100 * century + 4 * four + year : Nat), day, ?_, ?_, ?_⟩
  · rcases inYear with small | ⟨rfl, rfl, last⟩
    · exact .inl small
    · refine .inr ⟨rfl, ?_⟩
      simp only [isLeap, Bool.and_eq_true, Bool.or_eq_true, decide_eq_true_eq]
      omega
  · simp only [marchStart]
    omega
  · have inEra : ((days + 719468) % 146097).toNat = n := by omega
    simp only [ofDays, inEra, yearOfEra_eq centuries fours years inYear place,
      dayOfYear_eq fours years place]
    rfl

/-- Every day of a year that begins in March is in the calendar. -/
theorem isValid_ofMarch {year : Int} {day : Nat} (inYear : InMarchYear year day) :
    (ofMarch year day).isValid = true := by
  obtain ⟨month, number⟩ : ∃ month, month = (5 * day + 2) / 153 := ⟨_, rfl⟩
  -- With twelve months at most they can be gone through one by one.
  have within : day ≤ 365 := by
    rcases inYear with small | ⟨rfl, -⟩
    · omega
    · omega
  have twelve : month < 12 := by omega
  simp only [ofMarch, ← number]
  -- Month by month, for each has its own length. February is the last one.
  interval_cases month
  case «11» =>
    rcases inYear with small | ⟨rfl, leap⟩
    · -- Its length depends on whether the year is a leap year.
      suffices day - 337 + 1 ≤ if isLeap (year + 1) = true then 29 else 28 by simpa [isValid, monthLength]
      split
      · omega
      · omega
    · simp [isValid, monthLength, leap]
  all_goals
    simp [isValid, monthLength]
    omega

/-- A day of a year that begins in March is counted from the first one. -/
theorem toDays_ofMarch {year : Int} {day : Nat} (inYear : InMarchYear year day) :
    (ofMarch year day).toDays = marchStart year + day := by
  obtain ⟨month, number⟩ : ∃ month, month = (5 * day + 2) / 153 := ⟨_, rfl⟩
  have within : day ≤ 365 := by
    rcases inYear with small | ⟨rfl, -⟩
    · omega
    · omega
  have twelve : month < 12 := by omega
  have inMonth : (153 * month + 2) / 5 ≤ day := by omega
  simp only [ofMarch, ← number, marchStart]
  -- From January on the months belong to the next year of the calendar.
  split
  · simp only [toDays]
    rw [if_neg (by omega), if_neg (by omega), Nat.add_sub_cancel]
    omega
  · simp only [toDays]
    rw [if_pos (by omega), if_pos (by omega)]
    omega

/-- The date of a day is in the calendar. -/
theorem isValid_ofDays (days : Int) : (ofDays days).isValid = true := by
  -- The day has a place in a year that begins in March, and that place is in the calendar.
  obtain ⟨year, day, inYear, -, same⟩ := exists_ofMarch days
  exact same ▸ isValid_ofMarch inYear

/-- The date of a day has the number of the day. -/
@[simp]
theorem toDays_ofDays (days : Int) : (ofDays days).toDays = days := by
  -- The day has a place in a year that begins in March, and the place is counted back to it.
  obtain ⟨year, day, inYear, number, same⟩ := exists_ofMarch days
  rw [same, toDays_ofMarch inYear, number]

end Uplink.Date
