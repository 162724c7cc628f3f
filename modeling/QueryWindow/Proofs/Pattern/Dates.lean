import QueryWindow.Proofs.Formats.Attempts
import QueryWindow.Proofs.Outcome

/-!
# QueryWindow.Proofs.Pattern.Dates

**Whatever a text is read as, its date is one of the calendar.** Each of the five ways to tell a
date ends in an operation that only answers real dates, Unix seconds included, so that no
combination of fields leads out of the calendar. A time alone is put on the date of the reference.
-/

namespace QueryWindow

namespace Fields

variable {fields : Fields}

theorem date_eq_ok_iff {date : Date} : fields.date = .ok date ↔
    ∃ year isoYear, fields.calendarYear = .ok year ∧ fields.weekYear = .ok isoYear ∧
      fields.proposedDate year isoYear = .ok date ∧ fields.AgreeWithDate date := by
  unfold Fields.date
  simp only [bind_eq_ok]
  constructor
  · intro h
    obtain ⟨year, hy, isoYear, hw, found, hp, h⟩ := h
    split at h
    · rename_i hagree
      obtain rfl := pure_eq_ok.1 h
      exact ⟨year, isoYear, hy, hw, hp, hagree⟩
    · cases h
  · intro h
    obtain ⟨year, isoYear, hy, hw, hp, hagree⟩ := h
    refine ⟨year, hy, isoYear, hw, date, hp, ?_⟩
    rw [if_pos hagree]
    rfl

theorem dateAndTime_eq_ok_iff {t : Timestamp} : fields.dateAndTime = .ok t ↔
    fields.date = .ok t.date ∧ fields.time = .ok t.time := by
  unfold dateAndTime
  simp only [bind_eq_ok]
  constructor
  · intro h
    obtain ⟨date, hd, time, ht, h⟩ := h
    obtain rfl := pure_eq_ok.1 h
    exact ⟨hd, ht⟩
  · intro h
    obtain ⟨hd, ht⟩ := h
    exact ⟨_, hd, _, ht, rfl⟩

theorem orOutOfRange_eq_ok_iff {found : Option Date} {date : Date} :
    orOutOfRange found = .ok date ↔ found = some date := by
  cases found with
  | none => exact ⟨fun h => (by cases h), fun h => (by cases h)⟩
  | some d => exact ⟨fun h => (by cases h; rfl), fun h => (by cases h; rfl)⟩

theorem valid_of_dateOfWeek {daysSinceStart : Date → Nat} {year week day : Int} {date : Date}
    (h : dateOfWeek daysSinceStart year week day = .ok date) : date.Valid := by
  unfold dateOfWeek at h
  split at h
  · cases hw : Date.ofWeek? daysSinceStart year week.toNat day.toNat with
    | none => rw [hw] at h; cases h
    | some found =>
        rw [hw] at h
        cases h
        exact Date.valid_of_ofWeek? hw
  · cases h

/-- Each of the five ways to tell a date leads to a date of the calendar. -/
theorem valid_of_proposedDate {year isoYear : Option Int} {date : Date}
    (h : fields.proposedDate year isoYear = .ok date) : date.Valid := by
  unfold proposedDate at h
  split at h
  · exact (Date.ofYmd?_eq_some.1 (orOutOfRange_eq_ok_iff.1 h)).2
  · split at h
    · exact Date.valid_of_ofOrdinal? (orOutOfRange_eq_ok_iff.1 h)
    · split at h
      · exact valid_of_dateOfWeek h
      · split at h
        · exact valid_of_dateOfWeek h
        · split at h
          · exact Date.valid_of_ofIsoWeek? (orOutOfRange_eq_ok_iff.1 h)
          · cases h

theorem valid_of_date {date : Date} (h : fields.date = .ok date) : date.Valid := by
  obtain ⟨_, _, -, -, hp, -⟩ := date_eq_ok_iff.1 h
  exact valid_of_proposedDate hp

theorem valid_date_of_dateAndTime {t : Timestamp} (h : fields.dateAndTime = .ok t) :
    t.date.Valid :=
  valid_of_date (dateAndTime_eq_ok_iff.1 h).1

/-- Unix seconds only add fields, from which the date is told like any other. -/
theorem valid_date_of_fromUnixSeconds {seconds : Int} {t : Timestamp}
    (h : fields.fromUnixSeconds seconds = .ok t) : t.date.Valid := by
  unfold fromUnixSeconds at h
  simp only [bind_eq_ok] at h
  obtain ⟨_, -, _, -, h⟩ := h
  exact valid_date_of_dateAndTime h

theorem valid_date_of_timestamp {t : Timestamp} (h : fields.timestamp = .ok t) :
    t.date.Valid := by
  unfold timestamp at h
  split at h
  · exact valid_date_of_dateAndTime h
  · rename_i found _ hfound _
    split at h
    · cases h
      exact valid_date_of_dateAndTime hfound
    · cases h
  · split at h
    · exact valid_date_of_fromUnixSeconds h
    · cases h

end Fields

/-! ### Patterns and formats -/

theorem Pattern.valid_date_of_timestamp? {pattern : String} {cs : List Char} {t : Timestamp}
    (h : timestamp? pattern cs = some t) : t.date.Valid := by
  obtain ⟨_, -, h⟩ := exceptBind_eq_ok.1 (toOption_eq_some.1 h)
  exact Fields.valid_date_of_timestamp h

theorem Pattern.valid_of_date? {pattern : String} {cs : List Char} {date : Date}
    (h : date? pattern cs = some date) : date.Valid := by
  obtain ⟨_, -, h⟩ := exceptBind_eq_ok.1 (toOption_eq_some.1 h)
  exact Fields.valid_of_date h

namespace Formats

variable {formats : Formats} {reference : Timestamp}

theorem parse_eq_ok_iff {text : String} {t : Timestamp} :
    formats.parse text reference = .ok t ↔
      trim text.toList ≠ [] ∧ formats.find? (trim text.toList) reference = some t := by
  unfold parse
  dsimp only
  by_cases hnil : trim text.toList = []
  · simp [hnil]
  · rw [if_neg (by simpa using hnil)]
    cases hf : formats.find? (trim text.toList) reference with
    | none => simp
    | some found => simp [hnil]

/-- A text that is read means a date of the calendar, if the reference is one. -/
theorem valid_date_of_parse {text : String} {t : Timestamp} (href : reference.date.Valid)
    (h : formats.parse text reference = .ok t) : t.date.Valid := by
  obtain ⟨aim, pattern, -, hread⟩ := exists_of_find? (parse_eq_ok_iff.1 h).2
  cases aim with
  | timestamp => exact Pattern.valid_date_of_timestamp? hread
  | date =>
      obtain ⟨date, hdate, rfl⟩ := Option.map_eq_some_iff.1 hread
      exact Pattern.valid_of_date? hdate
  | time =>
      obtain ⟨time, -, rfl⟩ := Option.map_eq_some_iff.1 hread
      exact href

end Formats

end QueryWindow
