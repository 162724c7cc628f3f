import QueryWindow.Proofs.Pattern.Dates
import QueryWindow.Proofs.Pattern.Ranges

/-!
# QueryWindow.Proofs.Pattern.Times

**Whatever a text is read as, its time of day is a real one.** Fields in range make a time of a day
(`Fields.valid_of_time`): the second 60 is the only one beyond a minute, and it becomes the second
59 prolonged, by whatever fraction was read with it. Unix seconds add what a real timestamp says,
which is in range. With `QueryWindow.Proofs.Pattern.Dates` for the date, every text that can be read
means a well-formed timestamp (`Formats.valid_of_parse`).
-/

namespace QueryWindow

/-! ### Unix seconds -/

theorem yearLength_le (year : Int) : yearLength year ≤ 366 := by
  unfold yearLength
  split <;> decide

theorem Timestamp.valid_of_ofUnixSeconds? {seconds : Int} {t : Timestamp}
    (h : ofUnixSeconds? seconds = some t) : t.Valid := by
  obtain ⟨date, hdate, rfl⟩ := Option.map_eq_some_iff.1 h
  refine ⟨Date.valid_of_ofDayNumber? hdate, ?_, ?_, ?_⟩ <;>
    simp only [secondsPerDay, nanosPerSecond] <;> omega

namespace Fields

theorem valid_of_unixTimestamp {seconds : Int} {given : Option Int} {t : Timestamp}
    (h : unixTimestamp seconds given = .ok t) : t.Valid := by
  unfold unixTimestamp at h
  split at h
  · cases h
  · rename_i found hfound
    have hvalid := Timestamp.valid_of_ofUnixSeconds? hfound
    split at h
    · split at h
      · cases h
        exact hvalid
      · split at h
        · exact Timestamp.valid_of_ofUnixSeconds? (elim_eq_ok.1 h)
        · cases h
    · cases h
      exact hvalid

/-- What a timestamp says is in range. -/
theorem admits_of_mem_unixFacts {t : Timestamp} (ht : t.Valid) (given : Option Int) :
    ∀ fact ∈ unixFacts t given, fact.1.Admits fact.2 := by
  obtain ⟨hdate, hsecond, -, -⟩ := ht
  have hordinal := (Date.ordinal_bounds hdate).1
  have hyear := Nat.le_trans (Date.ordinal_le_yearLength hdate) (yearLength_le t.date.year)
  obtain ⟨hmin, hmax, -⟩ := hdate
  simp only [secondsPerDay] at hsecond
  simp only [Date.minYear, Date.maxYear] at hmin hmax
  unfold unixFacts
  split <;>
    simp only [List.nil_append, List.singleton_append, List.forall_mem_cons, List.not_mem_nil,
      false_imp_iff, implies_true, and_true, Field.Admits, Field.least, Field.greatest, Time.hour,
      Time.minute, Time.secondOfMinute, signedHalfWordLimit] <;> omega

variable {fields : Fields}

/-- A field that is not given counts as zero. -/
theorem InRange.getD (h : fields.InRange) (field : Field) (hzero : field.Admits 0) :
    field.Admits ((fields field).getD 0) := by
  cases hfield : fields field with
  | none => exact hzero
  | some value => exact h field value hfield

/-- **Fields in range make a time of a day.** -/
theorem valid_of_time (h : fields.InRange) {time : Time} (htime : fields.time = .ok time) :
    time.Valid := by
  unfold Fields.time at htime
  split at htime
  · rename_i half hour minute hhalf hhour hminute
    have hhalf := h .half half hhalf
    have hhour := h .hourOfHalf hour hhour
    have hminute := h .minute minute hminute
    have hsecond := h.getD .second (by decide)
    have hnano := h.getD .nanosecond (by decide)
    simp only [Field.Admits, Field.least, Field.greatest] at hhalf hhour hminute hsecond hnano
    have hfraction : ((fields .nanosecond).getD 0).toNat < nanosPerSecond := by
      simp only [nanosPerSecond]
      omega
    split at htime
    · cases htime
    · dsimp only at htime
      split at htime
      · cases htime
        exact Time.ofHms_valid (by omega) (by omega) (by decide) (by omega) fun _ => rfl
      · cases htime
        -- Within a second that is not prolonged there is no room past its nanoseconds.
        exact Time.ofHms_valid (by omega) (by omega) (by omega) (by omega)
          fun hleap => absurd hfraction (Nat.not_lt_of_le hleap)
  · cases htime

theorem valid_of_dateAndTime (h : fields.InRange) {t : Timestamp}
    (ht : fields.dateAndTime = .ok t) : t.Valid :=
  ⟨valid_date_of_dateAndTime ht, valid_of_time h (dateAndTime_eq_ok_iff.1 ht).2⟩

theorem valid_of_fromUnixSeconds (h : fields.InRange) {seconds : Int} {t : Timestamp}
    (ht : fields.fromUnixSeconds seconds = .ok t) : t.Valid := by
  obtain ⟨found, hfound, ht⟩ := bind_eq_ok.1 ht
  obtain ⟨more, hmore, ht⟩ := bind_eq_ok.1 ht
  have hfacts := admits_of_mem_unixFacts (valid_of_unixTimestamp hfound) (fields .second)
  exact valid_of_dateAndTime (h.setAll hfacts hmore) ht

theorem valid_of_timestamp (h : fields.InRange) {t : Timestamp}
    (ht : fields.timestamp = .ok t) : t.Valid := by
  unfold timestamp at ht
  split at ht
  · exact valid_of_dateAndTime h ht
  · rename_i found _ hfound _
    split at ht
    · cases ht
      exact valid_of_dateAndTime h hfound
    · cases ht
  · split at ht
    · exact valid_of_fromUnixSeconds h ht
    · cases ht

end Fields

/-! ### Patterns and formats -/

theorem Pattern.valid_of_timestamp? {pattern : String} {cs : List Char} {t : Timestamp}
    (h : timestamp? pattern cs = some t) : t.Valid := by
  obtain ⟨_, hread, h⟩ := exceptBind_eq_ok.1 (toOption_eq_some.1 h)
  exact Fields.valid_of_timestamp (inRange_readFields hread) h

theorem Pattern.valid_of_time? {pattern : String} {cs : List Char} {time : Time}
    (h : time? pattern cs = some time) : time.Valid := by
  obtain ⟨_, hread, h⟩ := exceptBind_eq_ok.1 (toOption_eq_some.1 h)
  exact Fields.valid_of_time (inRange_readFields hread) h

/-- **A text that is read means a well-formed timestamp**, if the date of the reference is one of
the calendar. -/
theorem Formats.valid_of_parse {formats : Formats} {text : String} {reference t : Timestamp}
    (href : reference.date.Valid) (h : formats.parse text reference = .ok t) : t.Valid := by
  obtain ⟨aim, pattern, -, hread⟩ := exists_of_find? (parse_eq_ok_iff.1 h).2
  cases aim with
  | timestamp => exact Pattern.valid_of_timestamp? hread
  | date =>
      obtain ⟨date, hdate, rfl⟩ := Option.map_eq_some_iff.1 hread
      exact ⟨Pattern.valid_of_date? hdate, Time.midnight_valid⟩
  | time =>
      obtain ⟨time, htime, rfl⟩ := Option.map_eq_some_iff.1 hread
      exact ⟨href, Pattern.valid_of_time? htime⟩

end QueryWindow
