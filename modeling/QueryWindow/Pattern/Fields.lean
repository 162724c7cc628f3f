import QueryWindow.Pattern.Item

/-!
# QueryWindow.Pattern.Fields

**What a text has said so far about a date and time.** Reading a text by a pattern collects values
for named fields. A field may be given more than once, but always with the same value.

Design points:

* `Fields` is a function from `Field` to the value given, if any, so that one rule for setting a
  field and one for agreeing with a field serve all of them.
* `Quantity.facts` says which fields a number fixes. Both ways to count weekdays fix the same field,
  and both ways to count hours fix the hour of the half day.
* `ReadError` holds the causes for which a text is refused, by whichever stage refuses it.
-/

namespace QueryWindow

/-- Why a text cannot be read by a pattern. -/
inductive ReadError
  /-- A value is beyond what its field, or the calendar, can hold. -/
  | outOfRange
  /-- The values given contradict one another. -/
  | impossible
  /-- The values given do not determine a date and time. -/
  | notEnough
  /-- A character cannot stand where it stands. -/
  | invalid
  /-- The text ends where more is needed. -/
  | tooShort
  /-- The pattern ends before the text. -/
  | tooLong
  /-- The pattern has an invalid specifier. -/
  | badFormat
  deriving DecidableEq

/-- The wording of an error. -/
def ReadError.message : ReadError → String
  | outOfRange => "input is out of range"
  | impossible => "no possible date and time matching input"
  | notEnough => "input is not enough for unique date and time"
  | invalid => "input contains invalid characters"
  | tooShort => "premature end of input"
  | tooLong => "trailing input"
  | badFormat => "bad or unsupported format string"

/-- A value that a text can give, with the meaning it has in `Quantity` if it is a number there. -/
inductive Field
  | year
  | century
  | yearOfCentury
  | isoYear
  | isoYearOfCentury
  | quarter
  | month
  | day
  | weekFromSunday
  | weekFromMonday
  | isoWeek
  /-- The days since Monday. -/
  | weekday
  | ordinal
  /-- The half of the day, from 0. -/
  | half
  /-- The hour of the half day, from 0. -/
  | hourOfHalf
  | minute
  | second
  | nanosecond
  | unixSeconds
  /-- The offset from universal time in seconds. -/
  | offset
  deriving DecidableEq

/-- The values given so far. -/
abbrev Fields := Field → Option Int

namespace Fields

/-- Nothing is given. -/
def empty : Fields := fun _ => none

/-- One more value is given; it must not contradict an earlier one. -/
def set (fields : Fields) (field : Field) (value : Int) : Except ReadError Fields :=
  match fields field with
  | none => .ok fun f => if f = field then some value else fields f
  | some earlier => if earlier = value then .ok fields else .error .impossible

/-- More values are given, in order. -/
def setAll (fields : Fields) : List (Field × Int) → Except ReadError Fields
  | [] => .ok fields
  | (field, value) :: facts => (fields.set field value).bind fun fields => fields.setAll facts

/-- A field is not given, or has the value. -/
def Agrees (fields : Fields) (field : Field) (value : Int) : Prop :=
  ∀ given ∈ fields field, given = value

instance (fields : Fields) (field : Field) (value : Int) :
    Decidable (fields.Agrees field value) :=
  inferInstanceAs (Decidable (∀ given ∈ fields field, given = value))

/-- A field that was set holds its value. -/
theorem get_of_set {fields result : Fields} {field : Field} {value : Int}
    (h : fields.set field value = .ok result) : result field = some value := by
  unfold set at h
  split at h
  · cases h; simp
  · rename_i earlier he
    split at h
    · rename_i hv; cases h; rw [he, hv]
    · cases h

/-- Setting a field leaves every other field as it is. -/
theorem get_of_set_of_ne {fields result : Fields} {field other : Field} {value : Int}
    (h : fields.set field value = .ok result) (hne : other ≠ field) :
    result other = fields other := by
  unfold set at h
  split at h
  · cases h; simp [hne]
  · split at h <;> cases h; rfl

end Fields

namespace Quantity

/-- The fields that a number fixes. -/
def facts : Quantity → Int → List (Field × Int)
  | year, v => [(.year, v)]
  | century, v => [(.century, v)]
  | yearOfCentury, v => [(.yearOfCentury, v)]
  | isoYear, v => [(.isoYear, v)]
  | isoYearOfCentury, v => [(.isoYearOfCentury, v)]
  | quarter, v => [(.quarter, v)]
  | month, v => [(.month, v)]
  | day, v => [(.day, v)]
  | weekFromSunday, v => [(.weekFromSunday, v)]
  | weekFromMonday, v => [(.weekFromMonday, v)]
  | isoWeek, v => [(.isoWeek, v)]
  | weekdayFromSunday, v => [(.weekday, (v + 6) % 7)]
  | weekdayFromMonday, v => [(.weekday, v - 1)]
  | ordinal, v => [(.ordinal, v)]
  | hour, v => [(.half, v / 12), (.hourOfHalf, v % 12)]
  | hourOfHalf, v => [(.hourOfHalf, v % 12)]
  | minute, v => [(.minute, v)]
  | second, v => [(.second, v)]
  | nanosecond, v => [(.nanosecond, v)]
  | unixSeconds, v => [(.unixSeconds, v)]

end Quantity

end QueryWindow
