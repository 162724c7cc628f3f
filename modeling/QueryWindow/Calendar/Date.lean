/-!
# QueryWindow.Calendar.Date

**Proleptic Gregorian dates and their day numbers.** A `Date` is a plain triple of year, month and
day. Which triples are dates of the calendar is the decidable predicate `Date.Valid`, so that an
operation that can leave the calendar says so by answering an `Option`.

Design points:

* `Date.dayNumber` counts the days since the end of the year before year 1. It is the one place
  where the lengths of months and years meet, and every distance between dates is a difference of
  day numbers.
* `Date.ofDayNumber?` goes the other way. It guesses the year from the mean length of a year and
  corrects the guess by at most one, so that all its arithmetic is linear.
* Years run from `Date.minYear` to `Date.maxYear`; year 0 and negative years follow the same leap
  rule as all others.
-/

namespace QueryWindow

/-- A day of the calendar, by year, month and day of the month. -/
structure Date where
  /-- The year, which may be zero or negative. -/
  year : Int
  /-- The month, January being 1. -/
  month : Nat
  /-- The day of the month, from 1. -/
  day : Nat
  deriving DecidableEq, Inhabited

/-! ### Years and months -/

/-- Every fourth year is a leap year, except the centuries that 400 does not divide. -/
def isLeap (year : Int) : Bool :=
  year % 4 = 0 && (year % 100 ≠ 0 || year % 400 = 0)

/-- The number of days of a month. -/
def monthLength (year : Int) : Nat → Nat
  | 2 => if isLeap year then 29 else 28
  | 4 | 6 | 9 | 11 => 30
  | _ => 31

/-- The number of days of a year. -/
def yearLength (year : Int) : Nat :=
  if isLeap year then 366 else 365

/-- The number of days in the first months of a year. -/
def daysInMonths (year : Int) : Nat → Nat
  | 0 => 0
  | months + 1 => daysInMonths year months + monthLength year (months + 1)

/-- The number of days from the start of year 1 to the start of the given year. -/
def daysBeforeYear (year : Int) : Int :=
  365 * (year - 1) + (year - 1) / 4 - (year - 1) / 100 + (year - 1) / 400

@[simp] theorem daysInMonths_zero (year : Int) : daysInMonths year 0 = 0 := rfl

@[simp] theorem daysInMonths_twelve (year : Int) : daysInMonths year 12 = yearLength year := by
  cases h : isLeap year <;> simp [daysInMonths, monthLength, yearLength, h]

/-- A year starts where the year before it ends. -/
theorem daysBeforeYear_succ (year : Int) :
    daysBeforeYear (year + 1) = daysBeforeYear year + yearLength year := by
  unfold daysBeforeYear yearLength isLeap
  by_cases h4 : year % 4 = 0 <;> by_cases h100 : year % 100 = 0 <;>
    by_cases h400 : year % 400 = 0 <;> simp [h4, h100, h400] <;> omega

/-- The year that holds the day of the given number. -/
def yearOfDayNumber (number : Int) : Int :=
  let guess := number * 400 / 146097 + 1
  if number ≤ daysBeforeYear guess then guess - 1
  else if daysBeforeYear (guess + 1) < number then guess + 1
  else guess

/-- The guess is off by at most one year. -/
theorem guessedYear_bounds (number : Int) :
    daysBeforeYear (number * 400 / 146097) < number ∧
      number ≤ daysBeforeYear (number * 400 / 146097 + 3) := by
  unfold daysBeforeYear
  omega

/-- The year found for a day number is the one within which the day lies. -/
theorem yearOfDayNumber_bounds (number : Int) :
    daysBeforeYear (yearOfDayNumber number) < number ∧
      number ≤ daysBeforeYear (yearOfDayNumber number + 1) := by
  have h := guessedYear_bounds number
  unfold yearOfDayNumber
  generalize number * 400 / 146097 = y at h ⊢
  have e : y + 1 + 1 + 1 = y + 3 := by omega
  dsimp only
  split
  · simp only [Int.add_sub_cancel]
    exact ⟨h.1, by assumption⟩
  · split
    · exact ⟨by assumption, e ▸ h.2⟩
    · omega

namespace Date

/-! ### The dates of the calendar -/

/-- The first year with dates. -/
def minYear : Int := -262143

/-- The last year with dates. -/
def maxYear : Int := 262142

/-- A triple names a real day: its year is in range, and the month has that day. -/
def Valid (date : Date) : Prop :=
  minYear ≤ date.year ∧ date.year ≤ maxYear ∧ 1 ≤ date.month ∧ date.month ≤ 12 ∧
    1 ≤ date.day ∧ date.day ≤ monthLength date.year date.month

instance (date : Date) : Decidable date.Valid :=
  inferInstanceAs (Decidable (_ ∧ _))

/-- The first day of the calendar. -/
def first : Date := ⟨minYear, 1, 1⟩

/-- The last day of the calendar. -/
def last : Date := ⟨maxYear, 12, 31⟩

theorem first_valid : first.Valid := by decide

theorem last_valid : last.Valid := by decide

/-- The date of a year, month and day, if the calendar has it. -/
def ofYmd? (year : Int) (month day : Nat) : Option Date :=
  if Valid ⟨year, month, day⟩ then some ⟨year, month, day⟩ else none

/-- Dates are compared by year, then by month, then by day. -/
instance : LT Date where
  lt a b := a.year < b.year ∨
    (a.year = b.year ∧ (a.month < b.month ∨ (a.month = b.month ∧ a.day < b.day)))

theorem lt_def (a b : Date) : a < b ↔ a.year < b.year ∨
    (a.year = b.year ∧ (a.month < b.month ∨ (a.month = b.month ∧ a.day < b.day))) := Iff.rfl

instance (a b : Date) : Decidable (a < b) :=
  decidable_of_iff' _ (lt_def a b)

/-! ### Day of the year and day number -/

/-- The place of the day within its year, from 1. -/
def ordinal (date : Date) : Nat :=
  daysInMonths date.year (date.month - 1) + date.day

/-- The day of the given place within a year: it lies in the first month that ends no earlier. -/
def ofOrdinal? (year : Int) (ordinal : Nat) : Option Date :=
  ((List.range' 1 12).find? fun month => ordinal ≤ daysInMonths year month).bind fun month =>
    ofYmd? year month (ordinal - daysInMonths year (month - 1))

/-- The days since the end of the year before year 1, so that 0001-01-01 has number 1. -/
def dayNumber (date : Date) : Int :=
  daysBeforeYear date.year + date.ordinal

/-- The day of the given number, if the calendar reaches it. -/
def ofDayNumber? (number : Int) : Option Date :=
  let year := yearOfDayNumber number
  ofOrdinal? year (number - daysBeforeYear year).toNat

/-- The number of days from one date to another, negative if the second is earlier. -/
def daysUntil (start stop : Date) : Int :=
  stop.dayNumber - start.dayNumber

theorem daysUntil_self (date : Date) : date.daysUntil date = 0 := by
  simp [daysUntil]

theorem daysUntil_add (a b c : Date) : a.daysUntil b + b.daysUntil c = a.daysUntil c := by
  simp only [daysUntil]; omega

theorem daysUntil_neg (a b : Date) : -(a.daysUntil b) = b.daysUntil a := by
  simp only [daysUntil]; omega

/-- A date that was built is a real one, and holds what it was built from. -/
theorem ofYmd?_eq_some {year : Int} {month day : Nat} {date : Date} :
    ofYmd? year month day = some date ↔ date = ⟨year, month, day⟩ ∧ date.Valid := by
  unfold ofYmd?
  split
  · rename_i h
    constructor
    · intro e; cases e; exact ⟨rfl, h⟩
    · rintro ⟨rfl, -⟩; rfl
  · rename_i h
    constructor
    · intro e; cases e
    · rintro ⟨rfl, k⟩; exact absurd k h

theorem valid_of_ofOrdinal? {year : Int} {n : Nat} {date : Date}
    (h : ofOrdinal? year n = some date) : date.Valid := by
  obtain ⟨_, _, h⟩ := Option.bind_eq_some_iff.1 h
  exact (ofYmd?_eq_some.1 h).2

theorem valid_of_ofDayNumber? {number : Int} {date : Date}
    (h : ofDayNumber? number = some date) : date.Valid :=
  valid_of_ofOrdinal? h

end Date

end QueryWindow
