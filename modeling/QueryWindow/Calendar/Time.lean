/-!
# QueryWindow.Calendar.Time

**Times of day, with leap seconds.** A `Time` is the second within the day and a count of
nanoseconds into that second. A leap second has no number of its own: it is the second before it,
prolonged, so its nanoseconds run from `nanosPerSecond` up to twice that. A leap second may follow
any minute of the day.

A value of the type can also prolong a second within a minute (`Time.Representable`). Such a time is
written like the second after it, and no text leads to it; the others are well-formed
(`Time.Valid`). Order, difference and subtraction need no more than that a time can be represented.
-/

namespace QueryWindow

/-- The nanoseconds of a second. -/
def nanosPerSecond : Nat := 1000000000

/-- The seconds of a day, leap seconds apart. -/
def secondsPerDay : Nat := 86400

/-- A time of day, by the second since midnight and the nanoseconds since that second began. -/
structure Time where
  /-- The seconds since midnight. -/
  second : Nat
  /-- The nanoseconds since the second began; beyond `nanosPerSecond` in a leap second. -/
  nano : Nat
  deriving DecidableEq, Inhabited

namespace Time

/-- A time can be represented: it lies within the day, and no second is longer than two. -/
def Representable (time : Time) : Prop :=
  time.second < secondsPerDay ∧ time.nano < 2 * nanosPerSecond

instance (time : Time) : Decidable time.Representable :=
  inferInstanceAs (Decidable (_ ∧ _))

/-- A time is well-formed: it can be represented, and prolongs a second only at the end of a
minute. -/
def Valid (time : Time) : Prop :=
  time.second < secondsPerDay ∧ time.nano < 2 * nanosPerSecond ∧
    (nanosPerSecond ≤ time.nano → time.second % 60 = 59)

instance (time : Time) : Decidable time.Valid :=
  inferInstanceAs (Decidable (_ ∧ _))

theorem Valid.representable {time : Time} (h : time.Valid) : time.Representable :=
  ⟨h.1, h.2.1⟩

/-- Outside leap seconds, what can be represented is well-formed. -/
theorem Representable.valid {time : Time} (h : time.Representable)
    (hnano : time.nano < nanosPerSecond) : time.Valid :=
  ⟨h.1, h.2, fun hleap => absurd hnano (Nat.not_lt_of_le hleap)⟩

/-- The start of the day. -/
def midnight : Time := ⟨0, 0⟩

/-- The time at an hour, minute, second and nanosecond, all counted from 0. -/
def ofHms (hour minute second nano : Nat) : Time :=
  ⟨hour * 3600 + minute * 60 + second, nano⟩

/-- The hour of the day. -/
def hour (time : Time) : Nat := time.second / 3600

/-- The minute of the hour. -/
def minute (time : Time) : Nat := time.second / 60 % 60

/-- The second of the minute, which a leap second shares with the second before it. -/
def secondOfMinute (time : Time) : Nat := time.second % 60

/-- The time falls in a leap second. -/
def isLeap (time : Time) : Bool := nanosPerSecond ≤ time.nano

/-- The same time without its part below the second; a leap second stays one. -/
def truncate (time : Time) : Time :=
  ⟨time.second, if time.isLeap then nanosPerSecond else 0⟩

/-- Times are compared by second, then by nanosecond. -/
instance : LT Time where
  lt a b := a.second < b.second ∨ (a.second = b.second ∧ a.nano < b.nano)

theorem lt_def (a b : Time) :
    a < b ↔ a.second < b.second ∨ (a.second = b.second ∧ a.nano < b.nano) := Iff.rfl

instance (a b : Time) : Decidable (a < b) :=
  decidable_of_iff' _ (lt_def a b)

theorem ofHms_valid {hour minute second nano : Nat} (hh : hour < 24) (hm : minute < 60)
    (hs : second < 60) (hn : nano < 2 * nanosPerSecond)
    (hl : nanosPerSecond ≤ nano → second = 59) : (ofHms hour minute second nano).Valid := by
  refine ⟨?_, hn, fun h => ?_⟩
  · simp only [ofHms, secondsPerDay]; omega
  · have := hl h; simp only [ofHms]; omega

/-- A time is put together from its parts. -/
theorem ofHms_parts (time : Time) :
    ofHms time.hour time.minute time.secondOfMinute time.nano = time := by
  cases time
  simp only [ofHms, hour, minute, secondOfMinute, mk.injEq, and_true]
  omega

theorem midnight_valid : midnight.Valid := by decide

end Time

end QueryWindow
