import QueryWindow.Proofs.Pattern.Dates

/-!
# QueryWindow.Proofs.Pattern.Telling

**What the usual fields tell.** Most patterns give a date by year, month and day, and a time by
hour, minute and second. If no other field is given, nothing has to be guessed and nothing can
disagree: the date is the one with this year, month and day, if there is one, and the time is put
together from its parts.

A `Display` holds these numbers before it is known whether they make up a date. `Fields.Say` is the
state that fields are in after a text about one display was read: they say what the display says
about the fields that were mentioned.
-/

namespace QueryWindow

/-- The time at which a clock shows an hour, minute and second; second 60 is the leap second after
second 59. -/
def Time.ofClock (hour minute second nano : Nat) : Time :=
  if second = 60 then ofHms hour minute 59 (nanosPerSecond + nano)
  else ofHms hour minute second nano

/-- What a calendar and a clock show, the second being 60 in a leap second and the nanoseconds those
of the second shown. -/
structure Display where
  year : Int
  month : Nat
  day : Nat
  hour : Nat
  minute : Nat
  second : Nat
  nano : Nat

namespace Display

/-- The date shown, which the calendar may lack. -/
def date (display : Display) : Date := ⟨display.year, display.month, display.day⟩

/-- The time shown. -/
def time (display : Display) : Time :=
  .ofClock display.hour display.minute display.second display.nano

/-- The value that a display gives a field. -/
def valueOf (display : Display) : Field → Int
  | .year => display.year
  | .month => display.month
  | .day => display.day
  | .half => display.hour / 12
  | .hourOfHalf => display.hour % 12
  | .minute => display.minute
  | .second => display.second
  | .nanosecond => display.nano
  | _ => 0

end Display

/-- What calendar and clock show at a timestamp. A leap second is shown as second 60, and its
nanoseconds without the second that it prolongs. -/
def Timestamp.display (t : Timestamp) : Display :=
  ⟨t.date.year, t.date.month, t.date.day, t.time.hour, t.time.minute,
    t.time.secondOfMinute + t.time.nano / nanosPerSecond, t.time.nano % nanosPerSecond⟩

/-- The time is put together again from what is shown. -/
theorem Timestamp.time_display {t : Timestamp} (h : t.time.Valid) : t.display.time = t.time := by
  obtain ⟨-, hnano, hleap⟩ := h
  show Time.ofClock t.time.hour t.time.minute (t.time.secondOfMinute + t.time.nano / nanosPerSecond)
    (t.time.nano % nanosPerSecond) = t.time
  by_cases hl : nanosPerSecond ≤ t.time.nano
  · have h59 : t.time.secondOfMinute = 59 := hleap hl
    have hone : t.time.nano / nanosPerSecond = 1 := by
      simp only [nanosPerSecond] at hl hnano ⊢
      omega
    have hrest : nanosPerSecond + t.time.nano % nanosPerSecond = t.time.nano := by
      simp only [nanosPerSecond] at hl hnano ⊢
      omega
    rw [hone, h59, Time.ofClock, if_pos rfl, hrest, ← h59]
    exact t.time.ofHms_parts
  · have hzero : t.time.nano / nanosPerSecond = 0 := Nat.div_eq_of_lt (Nat.lt_of_not_le hl)
    have hrest : t.time.nano % nanosPerSecond = t.time.nano :=
      Nat.mod_eq_of_lt (Nat.lt_of_not_le hl)
    have h60 : t.time.secondOfMinute ≠ 60 := by
      simp only [Time.secondOfMinute]
      omega
    rw [hzero, hrest, Nat.add_zero, Time.ofClock, if_neg h60]
    exact t.time.ofHms_parts

/-- Truncating a timestamp changes nothing that is shown but the nanoseconds. -/
theorem Timestamp.display_truncate {t : Timestamp} (h : t.time.Valid) :
    t.truncate.display = { t.display with nano := 0 } := by
  have hsecond : (if t.time.isLeap then nanosPerSecond else 0) / nanosPerSecond =
      t.time.nano / nanosPerSecond := by
    have hnano := h.2.1
    by_cases hl : nanosPerSecond ≤ t.time.nano
    · rw [Time.isLeap, decide_eq_true hl, if_pos rfl]
      simp only [nanosPerSecond] at hl hnano ⊢
      omega
    · rw [Time.isLeap, decide_eq_false hl, if_neg (by decide), Nat.zero_div,
        Nat.div_eq_of_lt (Nat.lt_of_not_le hl)]
  have hnano : (if t.time.isLeap then nanosPerSecond else 0) % nanosPerSecond = 0 := by
    cases t.time.isLeap <;> rfl
  show Display.mk _ _ _ _ _ (t.time.secondOfMinute + _ / _) (_ % _) = _
  rw [Timestamp.truncate, Time.truncate, hsecond, hnano]
  rfl

theorem Timestamp.valid_truncate {t : Timestamp} (h : t.Valid) : t.truncate.Valid := by
  obtain ⟨hdate, hsecond, hnano, hleap⟩ := h
  refine ⟨hdate, hsecond, ?_, fun hl => hleap ?_⟩
  · show (if t.time.isLeap then nanosPerSecond else 0) < _
    cases t.time.isLeap <;> decide
  · have hl : nanosPerSecond ≤ if t.time.isLeap then nanosPerSecond else 0 := hl
    cases hleap : t.time.isLeap with
    | true => exact of_decide_eq_true hleap
    | false =>
        rw [hleap] at hl
        exact absurd hl (by decide)

/-! ### Fields -/

/-- The fields about which a display says something. -/
def Field.isUsual : Field → Bool
  | year | month | day | half | hourOfHalf | minute | second | nanosecond => true
  | _ => false

namespace Fields

/-- The fields say what a display says about the fields mentioned, and nothing else. -/
def Say (fields : Fields) (mentioned : List Field) (display : Display) : Prop :=
  ∀ field, fields field = if field ∈ mentioned then some (display.valueOf field) else none

variable {fields : Fields} {mentioned : List Field} {display : Display}

theorem Say.of_mem (h : fields.Say mentioned display) {field : Field} (hmem : field ∈ mentioned) :
    fields field = some (display.valueOf field) :=
  (h field).trans (if_pos hmem)

theorem Say.of_not_mem (h : fields.Say mentioned display) {field : Field}
    (hmem : field ∉ mentioned) : fields field = none :=
  (h field).trans (if_neg hmem)

theorem Say.of_not_usual (h : fields.Say mentioned display)
    (husual : ∀ field ∈ mentioned, field.isUsual = true) {field : Field}
    (hfield : field.isUsual = false) : fields field = none := by
  refine h.of_not_mem fun hmem => ?_
  rw [husual field hmem] at hfield
  cases hfield

theorem agrees_of_none {field : Field} {value : Int} (h : fields field = none) :
    fields.Agrees field value := by
  intro given hgiven
  rw [h] at hgiven
  cases hgiven

theorem agreesForYear_of_none {field : Field} {year value : Int} (h : fields field = none) :
    fields.AgreesForYear field year value := by
  intro given hgiven
  rw [h] at hgiven
  cases hgiven

theorem agrees_of_some {field : Field} {value : Int} (h : fields field = some value) :
    fields.Agrees field value := by
  intro given hgiven
  rw [h] at hgiven
  exact (Option.some.inj hgiven).symm

/-- **Year, month and day tell the date they make up**, and no date if there is none. -/
theorem Say.date_eq_ok_iff (h : fields.Say mentioned display)
    (husual : ∀ field ∈ mentioned, field.isUsual = true) (hyear : .year ∈ mentioned)
    (hmonth : .month ∈ mentioned) (hday : .day ∈ mentioned) {date : Date} :
    fields.date = .ok date ↔ date = display.date ∧ date.Valid := by
  have hnone : ∀ {field : Field}, field.isUsual = false → fields field = none :=
    h.of_not_usual husual
  have hcalendar : fields.calendarYear = .ok (some display.year) := by
    unfold calendarYear
    rw [h.of_mem hyear, hnone rfl, hnone rfl]
    rfl
  have hweek : fields.weekYear = .ok none := by
    unfold weekYear
    rw [hnone rfl, hnone rfl]
    rfl
  have hproposed : fields.proposedDate (some display.year) none =
      orOutOfRange (Date.ofYmd? display.year display.month display.day) := by
    unfold proposedDate
    rw [h.of_mem hmonth, h.of_mem hday]
    rfl
  -- Of the fields that must agree with the date, only these three are given.
  have hagree : fields.AgreeWithDate display.date :=
    ⟨agrees_of_some (h.of_mem hyear), agreesForYear_of_none (hnone rfl),
      agreesForYear_of_none (hnone rfl), agrees_of_none (hnone rfl),
      agreesForYear_of_none (hnone rfl), agrees_of_none (hnone rfl),
      agrees_of_some (h.of_mem hmonth), agrees_of_some (h.of_mem hday), agrees_of_none (hnone rfl),
      agrees_of_none (hnone rfl), agrees_of_none (hnone rfl), agrees_of_none (hnone rfl),
      agrees_of_none (hnone rfl)⟩
  rw [Fields.date_eq_ok_iff, hcalendar, hweek]
  constructor
  · intro hdate
    obtain ⟨_, _, hy, hw, hp, -⟩ := hdate
    cases hy
    cases hw
    rw [hproposed, orOutOfRange_eq_ok_iff] at hp
    exact Date.ofYmd?_eq_some.1 hp
  · intro hdate
    obtain ⟨rfl, hvalid⟩ := hdate
    refine ⟨_, _, rfl, rfl, ?_, hagree⟩
    rw [hproposed, orOutOfRange_eq_ok_iff]
    exact Date.ofYmd?_eq_some.2 ⟨rfl, hvalid⟩

/-- **Hour, minute and second tell the time at which a clock shows them.** A second that is not
mentioned is 0, and so are nanoseconds, which are not mentioned without a second. -/
theorem Say.time_eq (h : fields.Say mentioned display) (hhalf : .half ∈ mentioned)
    (hhour : .hourOfHalf ∈ mentioned) (hminute : .minute ∈ mentioned)
    (hsecond : .second ∈ mentioned ∨ display.second = 0 ∧ .nanosecond ∉ mentioned)
    (hnano : .nanosecond ∈ mentioned ∨ display.nano = 0) : fields.time = .ok display.time := by
  have hgiven : ¬(fields .second = none ∧ fields .nanosecond ≠ none) := by
    intro hgiven
    rcases hsecond with hmem | ⟨-, hmem⟩
    · rw [h.of_mem hmem] at hgiven
      cases hgiven.1
    · exact hgiven.2 (h.of_not_mem hmem)
  have hsecond : (fields .second).getD 0 = display.second := by
    by_cases hmem : .second ∈ mentioned
    · rw [h.of_mem hmem]
      rfl
    · rw [h.of_not_mem hmem, (hsecond.resolve_left hmem).1]
      rfl
  have hnano : (fields .nanosecond).getD 0 = display.nano := by
    by_cases hmem : .nanosecond ∈ mentioned
    · rw [h.of_mem hmem]
      rfl
    · rw [h.of_not_mem hmem, hnano.resolve_left hmem]
      rfl
  have htotal :
      ((display.hour : Int) / 12 * 12 + (display.hour : Int) % 12).toNat = display.hour := by
    omega
  have hleap : ((display.second : Int) = 60) = (display.second = 60) := by
    rw [eq_iff_iff]
    omega
  unfold Fields.time
  rw [h.of_mem hhalf, h.of_mem hhour, h.of_mem hminute]
  dsimp only [Display.valueOf]
  rw [if_neg hgiven, hsecond, hnano, htotal]
  unfold Display.time Time.ofClock
  simp only [hleap, Int.toNat_natCast]
  by_cases h60 : display.second = 60
  · rw [if_pos h60, if_pos h60]
  · rw [if_neg h60, if_neg h60]

theorem Say.timestamp_eq (h : fields.Say mentioned display)
    (husual : ∀ field ∈ mentioned, field.isUsual = true) :
    fields.timestamp = fields.dateAndTime := by
  unfold timestamp
  rw [@Say.of_not_usual _ _ _ h husual .unixSeconds rfl]

/-- **What is shown at a timestamp tells the timestamp**, unless it has nanoseconds that are not
mentioned. -/
theorem Say.timestamp_eq_ok {t : Timestamp} (h : fields.Say mentioned t.display) (ht : t.Valid)
    (husual : ∀ field ∈ mentioned, field.isUsual = true)
    (hdate : .year ∈ mentioned ∧ .month ∈ mentioned ∧ .day ∈ mentioned)
    (htime : .half ∈ mentioned ∧ .hourOfHalf ∈ mentioned ∧ .minute ∈ mentioned)
    (hsecond : .second ∈ mentioned) (hnano : .nanosecond ∈ mentioned ∨ t.display.nano = 0) :
    fields.timestamp = .ok t := by
  have hfound : fields.date = .ok t.date :=
    (h.date_eq_ok_iff husual hdate.1 hdate.2.1 hdate.2.2).2 ⟨rfl, ht.1⟩
  have htold := h.time_eq htime.1 htime.2.1 htime.2.2 (Or.inl hsecond) hnano
  rw [Timestamp.time_display ht.2] at htold
  rw [h.timestamp_eq husual, dateAndTime_eq_ok_iff]
  exact ⟨hfound, htold⟩

end Fields

end QueryWindow
