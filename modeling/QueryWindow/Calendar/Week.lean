import QueryWindow.Calendar.Date

/-!
# QueryWindow.Calendar.Week

**Weekdays, the three ways to number weeks, and quarters.** A weekday is given by how many days it
lies after the day on which weeks start, so that both conventions, weeks from Monday and weeks from
Sunday, are remainders of the day number by seven.

Design points:

* A week counted within a year starts on the first Monday (or Sunday) of that year; the days before
  it are in week 0.
* An ISO week belongs to the year that holds its Thursday. `Date.thursdayOfWeek` is that Thursday's
  day number, and `Date.isoYear` and `Date.isoWeek` are read off it. An ISO year may lie one year
  outside the years that have dates, so it is computed from day numbers alone.
-/

namespace QueryWindow

namespace Date

/-! ### Weekdays -/

/-- How many days ago it was Monday. -/
def daysSinceMonday (date : Date) : Nat :=
  ((date.dayNumber - 1) % 7).toNat

/-- How many days ago it was Sunday. -/
def daysSinceSunday (date : Date) : Nat :=
  (date.dayNumber % 7).toNat

theorem daysSinceMonday_lt (date : Date) : date.daysSinceMonday < 7 := by
  unfold daysSinceMonday; omega

/-! ### Weeks of a year -/

/-- The week of the year, week 1 starting on the first Monday. -/
def weekFromMonday (date : Date) : Nat :=
  -- The place of the week's Monday in the year, in sevens and rounded up.
  (date.ordinal + 6 - date.daysSinceMonday) / 7

/-- The week of the year, week 1 starting on the first Sunday. -/
def weekFromSunday (date : Date) : Nat :=
  (date.ordinal + 6 - date.daysSinceSunday) / 7

/-- The day of a week counted from the first Monday (or Sunday) of a year, where `daysSinceStart`
tells how far into a week each date lies. Week 0 may start, and week 53 end, outside the year; a
day there is no day of this numbering. -/
def ofWeek? (daysSinceStart : Date → Nat) (year : Int) (week day : Nat) : Option Date :=
  let firstWeekStart := 1 + (7 - daysSinceStart ⟨year, 1, 1⟩) % 7
  let ordinal : Int := firstWeekStart + (week - 1 : Int) * 7 + day
  if ordinal ≤ 0 then none else ofOrdinal? year ordinal.toNat

/-! ### ISO weeks -/

/-- The day number of the Thursday of the week, which runs from Monday to Sunday. -/
def thursdayOfWeek (date : Date) : Int :=
  date.dayNumber - date.daysSinceMonday + 3

/-- The year an ISO week belongs to. -/
def isoYear (date : Date) : Int :=
  yearOfDayNumber date.thursdayOfWeek

/-- The place of an ISO week within its year, from 1. -/
def isoWeek (date : Date) : Nat :=
  ((date.thursdayOfWeek - daysBeforeYear date.isoYear - 1) / 7).toNat + 1

/-- The number of days from the end of the year before year 1 to the Monday that starts the first
ISO week of a year, which is the week of January 4. -/
def isoYearStart (year : Int) : Int :=
  -- From January 4 back to its Monday.
  let fourth := daysBeforeYear year + 4
  fourth - (fourth - 1) % 7

/-- The day of an ISO week, counted from Monday, if that year has that week and the calendar has
that day. The week may begin in the year before. Years have no bounds here, so that this year exists
even before the least one that a word of 32 bits holds; like all days so far out, the day is not one
of the calendar, and the answer is none. -/
def ofIsoWeek? (year : Int) (week day : Nat) : Option Date :=
  (ofDayNumber? (isoYearStart year + (week - 1 : Int) * 7 + day)).filter fun date =>
    date.isoYear = year ∧ date.isoWeek = week

/-! ### Quarters -/

/-- The quarter of the year, from 1. -/
def quarter (date : Date) : Nat :=
  (date.month - 1) / 3 + 1

theorem valid_of_ofWeek? {daysSinceStart : Date → Nat} {year : Int} {week day : Nat} {date : Date}
    (h : ofWeek? daysSinceStart year week day = some date) : date.Valid := by
  unfold ofWeek? at h
  dsimp only at h
  split at h
  · cases h
  · exact valid_of_ofOrdinal? h

theorem valid_of_ofIsoWeek? {year : Int} {week day : Nat} {date : Date}
    (h : ofIsoWeek? year week day = some date) : date.Valid :=
  valid_of_ofDayNumber? (Option.filter_eq_some_iff.1 h).1

end Date

end QueryWindow
