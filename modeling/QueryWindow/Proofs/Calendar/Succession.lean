import Mathlib.Tactic.FinCases
import QueryWindow.Proofs.Calendar.Elapsed

/-!
# QueryWindow.Proofs.Calendar.Succession

**Distances count dates, one after the other.** `Date.Next` says which date follows which, by the
rules as they are taught: thirty days has September, and so on to the leap years. One such step adds
one to the day number (`Date.dayNumber_next`), so that so many steps are a distance of so many days
(`Date.daysUntil_eq_iff`), through month ends, leap days and the years before year 1.

The rules do not mention `monthLength` and `isLeap`, from which day numbers are made; that both agree
is `lastOfMonth_iff`.
-/

namespace QueryWindow

/-! ### The rules of the calendar -/

/-- A leap year is divisible by 4 and not by 100, or else by 400. -/
def LeapYear (year : Int) : Prop := (4 ∣ year ∧ ¬ 100 ∣ year) ∨ 400 ∣ year

/-- The last day of each month of a year. -/
inductive LastOfMonth (year : Int) : Nat → Nat → Prop
  | thirtyOne {month : Nat} (h : month ∈ [1, 3, 5, 7, 8, 10, 12]) : LastOfMonth year month 31
  | thirty {month : Nat} (h : month ∈ [4, 6, 9, 11]) : LastOfMonth year month 30
  | leapFebruary (h : LeapYear year) : LastOfMonth year 2 29
  | february (h : ¬ LeapYear year) : LastOfMonth year 2 28

/-- The date after a date. -/
inductive Date.Next : Date → Date → Prop
  /-- The next day of the month. -/
  | nextDay {year : Int} {month day : Nat} (h : ¬ LastOfMonth year month day) :
      Next ⟨year, month, day⟩ ⟨year, month, day + 1⟩
  /-- The first of the next month. -/
  | nextMonth {year : Int} {month day : Nat} (h : LastOfMonth year month day) (hm : month ≠ 12) :
      Next ⟨year, month, day⟩ ⟨year, month + 1, 1⟩
  /-- The first of January of the next year. -/
  | newYear {year : Int} : Next ⟨year, 12, 31⟩ ⟨year + 1, 1, 1⟩

/-- So many dates later. -/
inductive Date.Later : Nat → Date → Date → Prop
  | zero (date : Date) : Later 0 date date
  | succ {days : Nat} {date next stop : Date} (h : date.Next next) (hrest : Later days next stop) :
      Later (days + 1) date stop

theorem isLeap_iff {year : Int} : isLeap year = true ↔ LeapYear year := by
  simp only [isLeap, LeapYear, Bool.and_eq_true, Bool.or_eq_true, decide_eq_true_eq]
  omega

theorem monthLength_long (year : Int) {month : Nat} (h : month ∈ [1, 3, 5, 7, 8, 10, 12]) :
    monthLength year month = 31 := by
  fin_cases h <;> rfl

theorem monthLength_short (year : Int) {month : Nat} (h : month ∈ [4, 6, 9, 11]) :
    monthLength year month = 30 := by
  fin_cases h <;> rfl

/-- The rules name the last day that the calendar has of a month. -/
theorem lastOfMonth_iff {year : Int} {month day : Nat} : LastOfMonth year month day ↔
    1 ≤ month ∧ month ≤ 12 ∧ day = monthLength year month := by
  constructor
  · intro h
    cases h with
    | thirtyOne h =>
        rw [monthLength_long year h]
        simp only [List.mem_cons, List.not_mem_nil, or_false] at h
        omega
    | thirty h =>
        rw [monthLength_short year h]
        simp only [List.mem_cons, List.not_mem_nil, or_false] at h
        omega
    | leapFebruary h => exact ⟨by decide, by decide, by rw [monthLength, isLeap_iff.2 h]; rfl⟩
    | february h =>
        have hnot : isLeap year = false := Bool.eq_false_iff.2 fun k => h (isLeap_iff.1 k)
        exact ⟨by decide, by decide, by rw [monthLength, hnot]; rfl⟩
  · intro h
    obtain ⟨h1, h12, rfl⟩ := h
    have hmonth : month ∈ [1, 3, 5, 7, 8, 10, 12] ∨ month ∈ [4, 6, 9, 11] ∨ month = 2 := by
      simp only [List.mem_cons, List.not_mem_nil, or_false]
      omega
    rcases hmonth with hlong | hshort | rfl
    · rw [monthLength_long year hlong]
      exact .thirtyOne hlong
    · rw [monthLength_short year hshort]
      exact .thirty hshort
    · cases hleap : isLeap year with
      | true =>
          rw [monthLength, hleap]
          exact .leapFebruary (isLeap_iff.1 hleap)
      | false =>
          rw [monthLength, hleap]
          exact .february fun k => Bool.false_ne_true (hleap.symm.trans (isLeap_iff.2 k))

namespace Date

/-- A year has a 29th of February exactly if it is a leap year. -/
theorem valid_leapDay_iff {year : Int} :
    Valid ⟨year, 2, 29⟩ ↔ minYear ≤ year ∧ year ≤ maxYear ∧ LeapYear year := by
  rw [← isLeap_iff]
  cases h : isLeap year <;> simp [Valid, monthLength, h]

/-! ### One step -/

/-- **The next date is one day away.** -/
theorem dayNumber_next {date next : Date} (h : date.Next next) :
    next.dayNumber = date.dayNumber + 1 := by
  cases h with
  | nextDay h =>
      simp only [dayNumber, ordinal]
      omega
  | @nextMonth year month day h hm =>
      obtain ⟨h1, -, rfl⟩ := lastOfMonth_iff.1 h
      have hsum := daysInMonths_pred year h1
      simp only [dayNumber, ordinal, Nat.add_sub_cancel]
      omega
  | @newYear year =>
      have hsum := daysInMonths_pred year (show 1 ≤ 12 by decide)
      rw [daysInMonths_twelve] at hsum
      simp only [dayNumber, ordinal, daysBeforeYear_succ, daysInMonths_zero, Nat.sub_self]
      simp only [monthLength] at hsum
      omega

/-- Every month starts with a day. -/
theorem valid_firstOfMonth {year : Int} {month : Nat} (hmin : minYear ≤ year)
    (hmax : year ≤ maxYear) (h1 : 1 ≤ month) (h12 : month ≤ 12) : Valid ⟨year, month, 1⟩ := by
  have := (monthLength_bounds year month).1
  exact ⟨hmin, hmax, h1, h12, Nat.le_refl 1, by dsimp only; omega⟩

/-- Every date but the last one is followed by a date of the calendar. -/
theorem exists_next {date : Date} (h : date.Valid) (hlast : date ≠ last) :
    ∃ next, next.Valid ∧ date.Next next := by
  obtain ⟨year, month, day⟩ := date
  obtain ⟨hmin, hmax, h1, h12, hd, hlen⟩ := h
  dsimp only at hmin hmax h1 h12 hd hlen
  by_cases hend : day = monthLength year month
  · have hrule : LastOfMonth year month day := lastOfMonth_iff.2 ⟨h1, h12, hend⟩
    by_cases hdec : month = 12
    · subst hdec
      obtain rfl : day = 31 := hend
      -- Only in the last year would the next one be too late.
      have hyear : year ≠ maxYear := fun hyear => hlast (by rw [hyear]; rfl)
      exact ⟨_, valid_firstOfMonth (by omega) (by omega) (by decide) (by decide), .newYear⟩
    · exact ⟨_, valid_firstOfMonth hmin hmax (by omega) (by omega), .nextMonth hrule hdec⟩
  · have hmore : day + 1 ≤ monthLength year month := by omega
    exact ⟨_, ⟨hmin, hmax, h1, h12, Nat.le_add_left 1 day, hmore⟩,
      .nextDay fun hrule => hend (lastOfMonth_iff.1 hrule).2.2⟩

/-- No date is followed by two. -/
theorem Next.unique {date next other : Date} (h : date.Next next) (h' : date.Next other) :
    next = other := by
  cases h with
  | nextDay h =>
      cases h' with
      | nextDay => rfl
      | nextMonth h' => exact absurd h' h
      | newYear => exact absurd (.thirtyOne (by decide)) h
  | nextMonth h hm =>
      cases h' with
      | nextDay h' => exact absurd h h'
      | nextMonth => rfl
      | newYear => exact absurd rfl hm
  | newYear =>
      cases h' with
      | nextDay h' => exact absurd (.thirtyOne (by decide)) h'
      | nextMonth _ hm => exact absurd rfl hm
      | newYear => rfl

/-! ### Many steps -/

theorem dayNumber_later {days : Nat} {date stop : Date} (h : Later days date stop) :
    stop.dayNumber = date.dayNumber + days := by
  induction h with
  | zero => omega
  | succ hnext _ ih =>
      rw [ih, dayNumber_next hnext]
      omega

/-- A date of the calendar is reached from any earlier one, through the dates between them. -/
theorem later_of_dayNumber {days : Nat} {date stop : Date} (hdate : date.Valid) (hstop : stop.Valid)
    (h : stop.dayNumber = date.dayNumber + days) : Later days date stop := by
  induction days generalizing date with
  | zero =>
      obtain rfl : stop = date := (dayNumber_inj hstop hdate).1 (by omega)
      exact .zero stop
  | succ days ih =>
      have hlast : date ≠ last := by
        rintro rfl
        have := dayNumber_le_last hstop
        omega
      obtain ⟨next, hvalid, hnext⟩ := exists_next hdate hlast
      have hnumber := dayNumber_next hnext
      exact .succ hnext (ih hvalid (by omega))

/-- **A distance is the number of dates to go.** -/
theorem daysUntil_eq_iff {days : Nat} {date stop : Date} (hdate : date.Valid) (hstop : stop.Valid) :
    date.daysUntil stop = days ↔ Later days date stop := by
  unfold daysUntil
  constructor
  · intro h
    exact later_of_dayNumber hdate hstop (by omega)
  · intro h
    have := dayNumber_later h
    omega

theorem daysUntil_neg_iff {date other : Date} (hdate : date.Valid) (hother : other.Valid) :
    date.daysUntil other < 0 ↔ other < date := by
  rw [← daysUntil_pos_iff hother hdate, ← daysUntil_neg date other]
  omega

end Date

namespace Timestamp

variable {a b c : Timestamp}

/-- **The days between timestamps count dates of the calendar.** They depend on the two dates alone,
and have the sign that the order of the dates says. Distances add up along a way, and are opposite
for the way back. Each date but the last one has one date after it, at a distance of one day, and
to be so many days away is to be so many dates further on. -/
theorem daysUntil_counts (ha : a.date.Valid) (hb : b.date.Valid) (c : Timestamp) :
    (∀ a' b' : Timestamp, a'.date = a.date → b'.date = b.date → a'.daysUntil b' = a.daysUntil b) ∧
    (a.daysUntil b = 0 ↔ a.date = b.date) ∧
    (0 < a.daysUntil b ↔ a.date < b.date) ∧
    (a.daysUntil b < 0 ↔ b.date < a.date) ∧
    (a ≤ b → 0 ≤ a.daysUntil b) ∧
    a.daysUntil b + b.daysUntil c = a.daysUntil c ∧
    b.daysUntil a = -a.daysUntil b ∧
    (a.date ≠ Date.last → ∃ next : Date, next.Valid ∧ a.date.Next next ∧
      (∀ other, a.date.Next other → other = next) ∧
      ∀ time, a.daysUntil ⟨next, time⟩ = 1) ∧
    (∀ days : Nat, a.daysUntil b = days ↔ Date.Later days a.date b.date) ∧
    (∀ year, Date.Valid ⟨year, 2, 29⟩ ↔ Date.minYear ≤ year ∧ year ≤ Date.maxYear ∧
      ((4 ∣ year ∧ ¬ 100 ∣ year) ∨ 400 ∣ year)) := by
  refine ⟨fun a' b' hda hdb => ?_, Date.daysUntil_eq_zero_iff ha hb, Date.daysUntil_pos_iff ha hb,
    Date.daysUntil_neg_iff ha hb, fun hle => ?_, Date.daysUntil_add _ _ _,
    (Date.daysUntil_neg _ _).symm, fun hlast => ?_, fun days => Date.daysUntil_eq_iff ha hb,
    fun year => Date.valid_leapDay_iff⟩
  · rw [Timestamp.daysUntil, hda, hdb, ← Timestamp.daysUntil]
  · rcases hle with rfl | hlt
    · exact Int.le_of_eq (Date.daysUntil_self _).symm
    · exact daysUntil_nonneg ha hb hlt
  · obtain ⟨next, hvalid, hnext⟩ := Date.exists_next ha hlast
    refine ⟨next, hvalid, hnext, fun other hother => hother.unique hnext, fun time => ?_⟩
    have hnumber := Date.dayNumber_next hnext
    show next.dayNumber - a.date.dayNumber = 1
    omega

/-- From the last day before year 0, one step leads to the year, and 60 of them to its leap day, which
is a day earlier than March whatever the times of day. -/
theorem daysUntil_counts_yearZero :
    let eve : Timestamp := ⟨⟨-1, 12, 31⟩, ⟨86399, 1500000000⟩⟩
    let leapDay : Timestamp := ⟨⟨0, 2, 29⟩, ⟨0, 0⟩⟩
    let march : Timestamp := ⟨⟨0, 3, 1⟩, ⟨43200, 0⟩⟩
    (eve.date.Valid ∧ leapDay.date.Valid ∧ eve.date ≠ Date.last ∧ eve ≤ leapDay) ∧
      0 ≤ eve.daysUntil leapDay ∧ Date.Later 60 eve.date leapDay.date ∧
      eve.daysUntil leapDay + leapDay.daysUntil march = eve.daysUntil march ∧
      (∃ next : Date, eve.date.Next next ∧ eve.daysUntil ⟨next, Time.midnight⟩ = 1) ∧
      (⟨eve.date, Time.midnight⟩ : Timestamp).daysUntil leapDay = 60 := by
  intro eve leapDay march
  have heve : eve.date.Valid := by decide
  have hleapDay : leapDay.date.Valid := by decide
  have hnotLast : eve.date ≠ Date.last := by decide
  have hle : eve ≤ leapDay := Or.inr (by decide)
  have hsixty : eve.daysUntil leapDay = (60 : Nat) := by decide
  obtain ⟨hdates, -, -, -, hnonneg, hadd, -, hnext, hcount, -⟩ :=
    daysUntil_counts heve hleapDay march
  obtain ⟨next, -, hfollows, -, hone⟩ := hnext hnotLast
  exact ⟨⟨heve, hleapDay, hnotLast, hle⟩, hnonneg hle, (hcount 60).1 hsixty, hadd,
    ⟨next, hfollows, hone _⟩, (hdates _ _ rfl rfl).trans hsixty⟩

end Timestamp

end QueryWindow
