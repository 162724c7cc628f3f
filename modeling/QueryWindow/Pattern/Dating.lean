import QueryWindow.Calendar.Timestamp
import QueryWindow.Calendar.Week
import QueryWindow.Pattern.Fields

/-!
# QueryWindow.Pattern.Dating

**From what a text has said to the date and time it means.** A date can be told in five ways: by
month and day, by the day of the year, by a week from Sunday or from Monday, and by an ISO week. The
first of these that the fields allow yields the date, and all fields given must then agree with it.

Design points:

* `Fields.AgreeWithDate` is the one place that compares a date with fields. A century or a year of
  the century that was given agrees with no negative year.
* A time of day needs an hour and a minute. Nanoseconds need a second. The second 60 is the leap
  second after second 59.
* Unix seconds are only consulted for a whole timestamp. They must agree with the date and time if
  these are complete, and otherwise they supply what is missing (`Fields.fromUnixSeconds`).
-/

namespace QueryWindow

namespace Fields

/-! ### Years -/

/-- The year that a year, a century and a year of the century amount to, if any of them is given.
The last two digits alone mean a year from 1970 to 2069. -/
def resolveYear (year century yearOfCentury : Option Int) : Except ReadError (Option Int) :=
  match year, century, yearOfCentury with
  | year, none, none => .ok year
  | some y, c, r =>
    -- A negative year goes with no century and no year of the century.
    if 0 ≤ y ∧ c.getD (y / 100) = y / 100 ∧ r.getD (y % 100) = y % 100 then .ok (some y)
    else .error .impossible
  | none, some c, some r => .ok (some (c * 100 + r))
  | none, none, some r => .ok (some (if r < 70 then r + 2000 else r + 1900))
  | none, some _, none => .error .notEnough

/-- The year of the date. -/
def calendarYear (fields : Fields) : Except ReadError (Option Int) :=
  resolveYear (fields .year) (fields .century) (fields .yearOfCentury)

/-- The year of the ISO week, which is never given by its century. -/
def weekYear (fields : Fields) : Except ReadError (Option Int) :=
  resolveYear (fields .isoYear) none (fields .isoYearOfCentury)

/-! ### Dates -/

/-- The part of a year that a field holds agrees only with years that are not negative. -/
def AgreesForYear (fields : Fields) (field : Field) (year value : Int) : Prop :=
  ∀ given ∈ fields field, 0 ≤ year ∧ given = value

instance (fields : Fields) (field : Field) (year value : Int) :
    Decidable (fields.AgreesForYear field year value) :=
  inferInstanceAs (Decidable (∀ given ∈ fields field, 0 ≤ year ∧ given = value))

/-- Every field that is given and concerns the date has the value it has for this date. -/
def AgreeWithDate (fields : Fields) (date : Date) : Prop :=
  fields.Agrees .year date.year ∧
    fields.AgreesForYear .century date.year (date.year / 100) ∧
    fields.AgreesForYear .yearOfCentury date.year (date.year % 100) ∧
    fields.Agrees .isoYear date.isoYear ∧
    fields.AgreesForYear .isoYearOfCentury date.isoYear (date.isoYear % 100) ∧
    fields.Agrees .quarter date.quarter ∧
    fields.Agrees .month date.month ∧
    fields.Agrees .day date.day ∧
    fields.Agrees .weekFromSunday date.weekFromSunday ∧
    fields.Agrees .weekFromMonday date.weekFromMonday ∧
    fields.Agrees .isoWeek date.isoWeek ∧
    fields.Agrees .weekday date.daysSinceMonday ∧
    fields.Agrees .ordinal date.ordinal

instance (fields : Fields) (date : Date) : Decidable (fields.AgreeWithDate date) :=
  inferInstanceAs (Decidable (_ ∧ _))

/-- A date that does not exist is out of range. -/
def orOutOfRange (date : Option Date) : Except ReadError Date :=
  date.elim (.error .outOfRange) .ok

/-- The date by a week that starts on Monday or Sunday, given the year, the week and the days since
the week began. A year without dates is out of range, a day outside its year is impossible. -/
def dateOfWeek (daysSinceStart : Date → Nat) (year week day : Int) : Except ReadError Date :=
  if Date.Valid ⟨year, 1, 1⟩ then
    (Date.ofWeek? daysSinceStart year week.toNat day.toNat).elim (.error .impossible) .ok
  else .error .outOfRange

/-- The date told in the first of the five ways that the fields allow, not yet compared with the
other fields. -/
def proposedDate (fields : Fields) (year isoYear : Option Int) : Except ReadError Date :=
  match year, fields .month, fields .day with
  | some y, some m, some d => orOutOfRange (Date.ofYmd? y m.toNat d.toNat)
  | _, _, _ =>
  match year, fields .ordinal with
  | some y, some n => orOutOfRange (Date.ofOrdinal? y n.toNat)
  | _, _ =>
  match year, fields .weekFromSunday, fields .weekday with
  -- The field counts the days since Monday.
  | some y, some w, some d => dateOfWeek Date.daysSinceSunday y w ((d + 1) % 7)
  | _, _, _ =>
  match year, fields .weekFromMonday, fields .weekday with
  | some y, some w, some d => dateOfWeek Date.daysSinceMonday y w d
  | _, _, _ =>
  match isoYear, fields .isoWeek, fields .weekday with
  | some y, some w, some d => orOutOfRange (Date.ofIsoWeek? y w.toNat d.toNat)
  | _, _, _ => .error .notEnough

/-- The date that the fields mean. -/
def date (fields : Fields) : Except ReadError Date := do
  let year ← fields.calendarYear
  let isoYear ← fields.weekYear
  let date ← fields.proposedDate year isoYear
  if fields.AgreeWithDate date then return date else throw .impossible

/-! ### Times of day -/

/-- The time of day that the fields mean. -/
def time (fields : Fields) : Except ReadError Time :=
  match fields .half, fields .hourOfHalf, fields .minute with
  | some half, some hour, some minute =>
    if fields .second = none ∧ fields .nanosecond ≠ none then .error .notEnough
    else
      let second := (fields .second).getD 0
      let nano := (fields .nanosecond).getD 0
      let hour := (half * 12 + hour).toNat
      -- The leap second runs on within second 59, past its nanoseconds.
      if second = 60 then
        .ok (Time.ofHms hour minute.toNat 59 (nanosPerSecond + nano.toNat))
      else
        .ok (Time.ofHms hour minute.toNat second.toNat nano.toNat)
  | _, _, _ => .error .notEnough

/-! ### Timestamps -/

/-- The date and time that the fields mean, Unix seconds apart. -/
def dateAndTime (fields : Fields) : Except ReadError Timestamp := do
  let date ← fields.date
  let time ← fields.time
  return ⟨date, time⟩

/-- A count of Unix seconds is that of a timestamp; for a leap second it may also be that of the
second after it. -/
def IsUnixSecondsOf (seconds : Int) (t : Timestamp) : Prop :=
  seconds = t.unixSeconds ∨ (t.time.isLeap ∧ seconds = t.unixSeconds + 1)

instance (seconds : Int) (t : Timestamp) : Decidable (IsUnixSecondsOf seconds t) :=
  inferInstanceAs (Decidable (_ ∨ _))

/-- The timestamp of a count of Unix seconds as far as it can serve next to a given second: to go
with the second 60, it must be that of the second 59 or of the second 0 after it. -/
def unixTimestamp (seconds : Int) (given : Option Int) : Except ReadError Timestamp :=
  match Timestamp.ofUnixSeconds? seconds with
  | none => .error .outOfRange
  | some t =>
    if given = some 60 then
      if t.time.secondOfMinute = 59 then .ok t
      -- The count is that of the second after the leap second.
      else if t.time.secondOfMinute = 0 then
        (Timestamp.ofUnixSeconds? (seconds - 1)).elim (.error .outOfRange) .ok
      else .error .impossible
    else .ok t

/-- What a timestamp says about year, day, hour, minute and, unless it is given as 60, second. -/
def unixFacts (t : Timestamp) (given : Option Int) : List (Field × Int) :=
  (if given = some 60 then [] else [(.second, (t.time.secondOfMinute : Int))]) ++
    [(.year, t.date.year), (.ordinal, t.date.ordinal), (.half, t.time.hour / 12),
      (.hourOfHalf, t.time.hour % 12), (.minute, t.time.minute)]

/-- The timestamp that the fields mean together with what Unix seconds say. -/
def fromUnixSeconds (fields : Fields) (seconds : Int) : Except ReadError Timestamp := do
  let t ← unixTimestamp seconds (fields .second)
  let fields ← fields.setAll (unixFacts t (fields .second))
  fields.dateAndTime

/-- The fields lack something, but do not contradict one another. -/
def Lacking {α : Type} (result : Except ReadError α) : Prop :=
  match result with
  | .ok _ => True
  | .error e => e = .notEnough

instance {α : Type} (result : Except ReadError α) : Decidable (Lacking result) :=
  match result with
  | .ok _ => .isTrue trivial
  | .error e => inferInstanceAs (Decidable (e = .notEnough))

/-- The timestamp that the fields mean. -/
def timestamp (fields : Fields) : Except ReadError Timestamp :=
  match fields.dateAndTime, fields .unixSeconds with
  | result, none => result
  | .ok t, some seconds => if IsUnixSecondsOf seconds t then .ok t else .error .impossible
  | .error e, some seconds =>
    if Lacking fields.date ∧ Lacking fields.time then fields.fromUnixSeconds seconds
    else .error e

end Fields

end QueryWindow
