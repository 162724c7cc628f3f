import QueryWindow.Calendar.Date
import QueryWindow.Calendar.Time

/-!
# QueryWindow.Calendar.Timestamp

**A date with a time of day, and the arithmetic of both.** Differences and subtraction go through
`Timestamp.instant`, the nanoseconds on a time line without leap seconds, on which a leap second
overlaps the second after it.

Design points:

* Timestamps are ordered as they are written: by date, then by second, then by nanosecond. A leap
  second therefore comes before all of the second after it, though their instants overlap.
* `Timestamp.back?` stays inside a leap second as long as the amount allows, and otherwise steps
  back from the instant. It has no answer before the first day of the calendar.
* `Timestamp.elapsed` is the difference of instants, with one second added or taken away where a
  leap second of one side lies between the two times of day.
-/

namespace QueryWindow

/-- A moment of local time: a date and a time of day. -/
structure Timestamp where
  /-- The day. -/
  date : Date
  /-- The time of that day. -/
  time : Time
  deriving DecidableEq, Inhabited

/-- The nanoseconds of a day. -/
def nanosPerDay : Nat := secondsPerDay * nanosPerSecond

namespace Timestamp

/-- The date is one of the calendar, and the time can be represented. -/
def Representable (t : Timestamp) : Prop := t.date.Valid ∧ t.time.Representable

instance (t : Timestamp) : Decidable t.Representable :=
  inferInstanceAs (Decidable (_ ∧ _))

/-- A timestamp is well-formed: the date is one of the calendar, and the time is well-formed. -/
def Valid (t : Timestamp) : Prop := t.date.Valid ∧ t.time.Valid

instance (t : Timestamp) : Decidable t.Valid :=
  inferInstanceAs (Decidable (_ ∧ _))

theorem Valid.representable {t : Timestamp} (h : t.Valid) : t.Representable :=
  ⟨h.1, h.2.representable⟩

/-- Outside leap seconds, what can be represented is well-formed. -/
theorem Representable.valid {t : Timestamp} (h : t.Representable)
    (hnano : t.time.nano < nanosPerSecond) : t.Valid :=
  ⟨h.1, h.2.valid hnano⟩

/-- The earliest timestamp. -/
def first : Timestamp := ⟨Date.first, Time.midnight⟩

theorem first_valid : first.Valid := by decide

/-- The same moment without its part below the second; a leap second stays one. -/
def truncate (t : Timestamp) : Timestamp := ⟨t.date, t.time.truncate⟩

/-- Timestamps are compared by date, then by time of day. -/
instance : LT Timestamp where
  lt a b := a.date < b.date ∨ (a.date = b.date ∧ a.time < b.time)

theorem lt_def (a b : Timestamp) :
    a < b ↔ a.date < b.date ∨ (a.date = b.date ∧ a.time < b.time) := Iff.rfl

instance (a b : Timestamp) : Decidable (a < b) :=
  decidable_of_iff' _ (lt_def a b)

/-! ### Instants -/

/-- The nanoseconds since the end of the day before day 0, as if no second were ever inserted. -/
def instant (t : Timestamp) : Int :=
  t.date.dayNumber * nanosPerDay + t.time.second * nanosPerSecond + t.time.nano

/-- The timestamp of an instant, never in a leap second, if the calendar has its day. -/
def ofInstant? (instant : Int) : Option Timestamp :=
  (Date.ofDayNumber? (instant / nanosPerDay)).map fun date =>
    let rest := (instant % nanosPerDay).toNat
    ⟨date, rest / nanosPerSecond, rest % nanosPerSecond⟩

/-- The moment a number of nanoseconds earlier. -/
def back? (t : Timestamp) (nanos : Nat) : Option Timestamp :=
  if t.time.isLeap ∧ nanos ≤ t.time.nano - nanosPerSecond then
    -- The amount fits into the part of the leap second that has passed.
    some ⟨t.date, t.time.second, t.time.nano - nanos⟩
  else
    ofInstant? (t.instant - nanos)

/-- What the leap seconds of two times of day add to the time from the first to the second: the one
of the first counts if the second is in a later second, and the one of the second counts against it
if it is in an earlier one. -/
def leapCorrection (start stop : Time) : Int :=
  if start.second < stop.second then if start.isLeap then 1 else 0
  else if stop.second < start.second then if stop.isLeap then -1 else 0
  else 0

/-- The nanoseconds from one timestamp to another. -/
def elapsed (start stop : Timestamp) : Int :=
  stop.instant - start.instant + leapCorrection start.time stop.time * nanosPerSecond

/-! ### Unix time -/

/-- The number of the day from which Unix time counts, 1970-01-01. -/
def unixEpochDay : Int := 719163

/-- The seconds since the start of 1970-01-01; a leap second counts as the second before it. -/
def unixSeconds (t : Timestamp) : Int :=
  (t.date.dayNumber - unixEpochDay) * secondsPerDay + t.time.second

/-- The timestamp at a count of seconds since the start of 1970-01-01. -/
def ofUnixSeconds? (seconds : Int) : Option Timestamp :=
  (Date.ofDayNumber? (unixEpochDay + seconds / secondsPerDay)).map fun date =>
    ⟨date, (seconds % secondsPerDay).toNat, 0⟩

theorem valid_of_ofInstant? {n : Int} {t : Timestamp} (h : ofInstant? n = some t) : t.Valid := by
  obtain ⟨date, hd, rfl⟩ := Option.map_eq_some_iff.1 h
  refine ⟨Date.valid_of_ofDayNumber? hd, ?_, ?_, ?_⟩ <;>
    simp only [nanosPerDay, secondsPerDay, nanosPerSecond] <;> omega

/-- Going back leads from what can be represented to what can be represented. -/
theorem representable_of_back? {t u : Timestamp} {nanos : Nat} (ht : t.Representable)
    (h : t.back? nanos = some u) : u.Representable := by
  unfold back? at h
  split at h
  · cases h
    obtain ⟨hd, hs, hn⟩ := ht
    exact ⟨hd, hs, Nat.lt_of_le_of_lt (Nat.sub_le _ _) hn⟩
  · exact (valid_of_ofInstant? h).representable

/-- Going back leads from well-formed timestamps to well-formed ones. -/
theorem valid_of_back? {t u : Timestamp} {nanos : Nat} (ht : t.Valid)
    (h : t.back? nanos = some u) : u.Valid := by
  unfold back? at h
  split at h
  · rename_i hl
    cases h
    obtain ⟨hd, hs, hn, h59⟩ := ht
    simp only [Time.isLeap, decide_eq_true_eq] at hl
    exact ⟨hd, hs, by simp only; omega, fun _ => h59 hl.1⟩
  · exact valid_of_ofInstant? h

end Timestamp

end QueryWindow
