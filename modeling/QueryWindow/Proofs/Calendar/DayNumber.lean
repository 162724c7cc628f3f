import Mathlib.Data.Nat.Find
import QueryWindow.Calendar.Date

/-!
# QueryWindow.Proofs.Calendar.DayNumber

**Dates and day numbers are the same thing.** `Date.dayNumber` is a bijection between the dates of
the calendar and an interval of integers (`Date.ofDayNumber?_eq_some_iff`,
`Date.exists_of_dayNumber`), and it keeps the order of dates (`Date.dayNumber_lt_iff`). Whatever is
computed with day numbers can therefore be read off the written dates, and the other way round.

The work is in two places where lengths add up: the months of a year (`daysInMonths`) and the years
(`daysBeforeYear`). A day of a month lies between the sum up to its month and the sum after it, and
likewise for years, so each direction only has to find the one month, or the one year, whose
interval holds a number.
-/

namespace QueryWindow

/-! ### Sums of months and years -/

theorem monthLength_bounds (year : Int) (month : Nat) :
    28 ≤ monthLength year month ∧ monthLength year month ≤ 31 := by
  unfold monthLength
  split
  · split <;> omega
  all_goals omega

theorem daysInMonths_mono (year : Int) {m n : Nat} (h : m ≤ n) :
    daysInMonths year m ≤ daysInMonths year n := by
  induction h with
  | refl => exact Nat.le_refl _
  | step _ ih => exact Nat.le_trans ih (Nat.le_add_right _ _)

/-- The month after the first ones adds its length. -/
theorem daysInMonths_pred {month : Nat} (year : Int) (h : 1 ≤ month) :
    daysInMonths year (month - 1) + monthLength year month = daysInMonths year month := by
  obtain ⟨m, rfl⟩ : ∃ m, month = m + 1 := ⟨month - 1, by omega⟩
  rfl

theorem daysBeforeYear_mono {y z : Int} (h : y ≤ z) : daysBeforeYear y ≤ daysBeforeYear z := by
  unfold daysBeforeYear
  omega

/-- Only one year holds the day of a given number. -/
theorem yearOfDayNumber_eq {year number : Int} (hl : daysBeforeYear year < number)
    (hu : number ≤ daysBeforeYear (year + 1)) : yearOfDayNumber number = year := by
  obtain ⟨kl, ku⟩ := yearOfDayNumber_bounds number
  generalize yearOfDayNumber number = found at kl ku ⊢
  -- In another year the number would lie before the start, or after the end, of this one.
  rcases Int.lt_trichotomy found year with h | h | h
  · have := daysBeforeYear_mono (show found + 1 ≤ year by omega)
    omega
  · exact h
  · have := daysBeforeYear_mono (show year + 1 ≤ found by omega)
    omega

namespace Date

/-! ### The order of dates -/

theorem lt_trichotomy (a b : Date) : a < b ∨ a = b ∨ b < a := by
  obtain ⟨ya, ma, da⟩ := a
  obtain ⟨yb, mb, db⟩ := b
  simp only [lt_def, mk.injEq]
  omega

theorem lt_irrefl (a : Date) : ¬ a < a := by
  simp only [lt_def]
  omega

theorem lt_asymm {a b : Date} (h : a < b) : ¬ b < a := by
  simp only [lt_def] at h ⊢
  omega

/-- No date is before the first one. -/
theorem first_le {date : Date} (h : date.Valid) : date = first ∨ first < date := by
  obtain ⟨hy, -, hm, -, hd, -⟩ := h
  obtain ⟨y, m, d⟩ := date
  simp only [lt_def, first, mk.injEq] at hy hm hd ⊢
  omega

/-- No date is after the last one. -/
theorem le_last {date : Date} (h : date.Valid) : date = last ∨ date < last := by
  obtain ⟨-, hy, -, hm, -, hd⟩ := h
  have hl := (monthLength_bounds date.year date.month).2
  obtain ⟨y, m, d⟩ := date
  simp only [lt_def, last, mk.injEq] at hy hm hd hl ⊢
  omega

/-! ### Places in the year -/

/-- A day lies after the months before its own, and not after its own month. -/
theorem ordinal_bounds {date : Date} (h : date.Valid) :
    daysInMonths date.year (date.month - 1) < date.ordinal ∧
      date.ordinal ≤ daysInMonths date.year date.month := by
  obtain ⟨-, -, hm, -, hd, hl⟩ := h
  have := daysInMonths_pred date.year hm
  unfold ordinal
  omega

theorem ordinal_le_yearLength {date : Date} (h : date.Valid) :
    date.ordinal ≤ yearLength date.year := by
  rw [← daysInMonths_twelve]
  exact Nat.le_trans (ordinal_bounds h).2 (daysInMonths_mono _ h.2.2.2.1)

/-- The month found for a place in the year is the first one that ends no earlier. -/
theorem ofOrdinal?_eq_some_iff {year : Int} {n : Nat} {date : Date} :
    ofOrdinal? year n = some date ↔ date.Valid ∧ date.year = year ∧ date.ordinal = n := by
  unfold ofOrdinal?
  simp only [Option.bind_eq_some_iff, List.find?_range'_eq_some, decide_eq_true_eq,
    Bool.not_eq_true', decide_eq_false_iff_not, List.mem_range'_1, ofYmd?_eq_some]
  constructor
  · intro h
    obtain ⟨month, ⟨hn, ⟨h1, -⟩, hfirst⟩, rfl, hv⟩ := h
    refine ⟨hv, rfl, ?_⟩
    have hd : 1 ≤ n - daysInMonths year (month - 1) := hv.2.2.2.2.1
    simp only [ordinal]
    omega
  · intro h
    obtain ⟨hv, rfl, rfl⟩ := h
    obtain ⟨hl, hu⟩ := ordinal_bounds hv
    have hm := hv.2.2.1
    have hm' := hv.2.2.2.1
    -- An earlier month ends before the month of the date starts, and so before the date.
    refine ⟨date.month, ⟨hu, ⟨hm, by omega⟩, fun m _ hlt hle => ?_⟩, ?_, hv⟩
    · have := daysInMonths_mono date.year (show m ≤ date.month - 1 by omega)
      omega
    · simp only [ordinal, Nat.add_sub_cancel_left]

/-- Every place of a year of the calendar is the place of one of its days. -/
theorem exists_of_ordinal {year : Int} {n : Nat} (hmin : minYear ≤ year) (hmax : year ≤ maxYear)
    (h1 : 1 ≤ n) (hn : n ≤ yearLength year) :
    ∃ date : Date, date.Valid ∧ date.year = year ∧ date.ordinal = n := by
  -- The month that holds the day is the least one whose end is not before it.
  have hex : ∃ month, n ≤ daysInMonths year month := ⟨12, by simpa using hn⟩
  obtain ⟨month, hle, hleast⟩ : ∃ month, n ≤ daysInMonths year month ∧
      ∀ m, m < month → ¬ n ≤ daysInMonths year m :=
    ⟨Nat.find hex, Nat.find_spec hex, fun m hm => Nat.find_min hex hm⟩
  have hpos : 1 ≤ month := by
    rcases Nat.eq_zero_or_pos month with h | h
    · rw [h, daysInMonths_zero] at hle
      omega
    · exact h
  have h12 : month ≤ 12 := by
    refine Nat.le_of_not_lt fun h => hleast 12 h ?_
    simpa using hn
  have hprev : daysInMonths year (month - 1) < n :=
    Nat.lt_of_not_le (hleast _ (by omega))
  have hsum := daysInMonths_pred year hpos
  refine ⟨⟨year, month, n - daysInMonths year (month - 1)⟩,
    ⟨hmin, hmax, hpos, h12, ?_, ?_⟩, rfl, ?_⟩
  · show 1 ≤ n - daysInMonths year (month - 1)
    omega
  · show n - daysInMonths year (month - 1) ≤ monthLength year month
    omega
  · show daysInMonths year (month - 1) + (n - daysInMonths year (month - 1)) = n
    omega

/-! ### Day numbers -/

/-- The day number of a date lies within its year. -/
theorem dayNumber_bounds {date : Date} (h : date.Valid) :
    daysBeforeYear date.year < date.dayNumber ∧
      date.dayNumber ≤ daysBeforeYear (date.year + 1) := by
  have h1 := ordinal_bounds h
  have h2 := ordinal_le_yearLength h
  rw [daysBeforeYear_succ]
  unfold dayNumber
  omega

theorem yearOfDayNumber_dayNumber {date : Date} (h : date.Valid) :
    yearOfDayNumber date.dayNumber = date.year :=
  yearOfDayNumber_eq (dayNumber_bounds h).1 (dayNumber_bounds h).2

/-- Within a year, a later date has a later place. -/
theorem ordinal_lt_ordinal {a b : Date} (ha : a.Valid) (hb : b.Valid) (hy : a.year = b.year)
    (h : a < b) : a.ordinal < b.ordinal := by
  rcases h with h | ⟨-, h | ⟨hm, hd⟩⟩
  · omega
  · have h1 := (ordinal_bounds ha).2
    have h2 := (ordinal_bounds hb).1
    have h3 := daysInMonths_mono b.year (show a.month ≤ b.month - 1 by omega)
    rw [hy] at h1
    omega
  · unfold ordinal
    rw [hy, hm]
    omega

theorem dayNumber_lt_dayNumber {a b : Date} (ha : a.Valid) (hb : b.Valid) (h : a < b) :
    a.dayNumber < b.dayNumber := by
  rcases Int.lt_trichotomy a.year b.year with hy | hy | hy
  · have h1 := (dayNumber_bounds ha).2
    have h2 := (dayNumber_bounds hb).1
    have h3 := daysBeforeYear_mono (show a.year + 1 ≤ b.year by omega)
    omega
  · have := ordinal_lt_ordinal ha hb hy h
    unfold dayNumber
    rw [hy]
    omega
  · simp only [lt_def] at h
    omega

/-- Later dates have greater day numbers. -/
theorem dayNumber_lt_iff {a b : Date} (ha : a.Valid) (hb : b.Valid) :
    a.dayNumber < b.dayNumber ↔ a < b := by
  refine ⟨fun h => ?_, dayNumber_lt_dayNumber ha hb⟩
  rcases lt_trichotomy a b with k | rfl | k
  · exact k
  · omega
  · have := dayNumber_lt_dayNumber hb ha k
    omega

theorem dayNumber_le_of_lt {a b : Date} (ha : a.Valid) (hb : b.Valid) (h : a < b ∨ a = b) :
    a.dayNumber ≤ b.dayNumber := by
  rcases h with h | rfl
  · exact Int.le_of_lt (dayNumber_lt_dayNumber ha hb h)
  · exact Int.le_refl _

theorem dayNumber_inj {a b : Date} (ha : a.Valid) (hb : b.Valid) :
    a.dayNumber = b.dayNumber ↔ a = b := by
  refine ⟨fun h => ?_, fun h => h ▸ rfl⟩
  rcases lt_trichotomy a b with k | k | k
  · have := dayNumber_lt_dayNumber ha hb k
    omega
  · exact k
  · have := dayNumber_lt_dayNumber hb ha k
    omega

/-- Reading a day number gives the date that has it, and nothing if no date has. -/
theorem ofDayNumber?_eq_some_iff {number : Int} {date : Date} :
    ofDayNumber? number = some date ↔ date.Valid ∧ date.dayNumber = number := by
  unfold ofDayNumber?
  simp only [ofOrdinal?_eq_some_iff]
  have hb := (yearOfDayNumber_bounds number).1
  constructor
  · intro h
    obtain ⟨hv, hy, ho⟩ := h
    refine ⟨hv, ?_⟩
    unfold dayNumber
    rw [hy, ho]
    omega
  · intro h
    obtain ⟨hv, rfl⟩ := h
    refine ⟨hv, (yearOfDayNumber_dayNumber hv).symm, ?_⟩
    rw [yearOfDayNumber_dayNumber hv]
    unfold dayNumber
    omega

theorem first_dayNumber_le {date : Date} (h : date.Valid) : first.dayNumber ≤ date.dayNumber :=
  dayNumber_le_of_lt first_valid h ((first_le h).symm.imp id Eq.symm)

theorem dayNumber_le_last {date : Date} (h : date.Valid) : date.dayNumber ≤ last.dayNumber :=
  dayNumber_le_of_lt h last_valid (le_last h).symm

/-- Every number between those of the first and the last day is the number of a day. -/
theorem exists_of_dayNumber {number : Int} (hl : first.dayNumber ≤ number)
    (hu : number ≤ last.dayNumber) : ∃ date, ofDayNumber? number = some date := by
  obtain ⟨kl, ku⟩ := yearOfDayNumber_bounds number
  have hmin : minYear ≤ yearOfDayNumber number := by
    refine Int.le_of_not_gt fun h => ?_
    have h1 := daysBeforeYear_mono (show yearOfDayNumber number + 1 ≤ first.year from h)
    have h2 := (dayNumber_bounds first_valid).1
    omega
  have hmax : yearOfDayNumber number ≤ maxYear := by
    refine Int.le_of_not_gt fun h => ?_
    have h1 := daysBeforeYear_mono (show last.year + 1 ≤ yearOfDayNumber number from h)
    have h2 := (dayNumber_bounds last_valid).2
    omega
  rw [daysBeforeYear_succ] at ku
  have h1 : 1 ≤ (number - daysBeforeYear (yearOfDayNumber number)).toNat := by omega
  obtain ⟨date, hv, hy, ho⟩ := exists_of_ordinal hmin hmax h1 (by omega)
  exact ⟨date, ofOrdinal?_eq_some_iff.2 ⟨hv, hy, ho⟩⟩

/-! ### Distances -/

/-- The distance between dates has the sign that their order says. -/
theorem daysUntil_pos_iff {a b : Date} (ha : a.Valid) (hb : b.Valid) :
    0 < a.daysUntil b ↔ a < b := by
  rw [← dayNumber_lt_iff ha hb]
  unfold daysUntil
  omega

theorem daysUntil_eq_zero_iff {a b : Date} (ha : a.Valid) (hb : b.Valid) :
    a.daysUntil b = 0 ↔ a = b := by
  rw [← dayNumber_inj ha hb]
  unfold daysUntil
  omega

end Date

end QueryWindow
