import QueryWindow.Proofs.Formats.Order
import QueryWindow.Proofs.Pattern.Reach

/-!
# QueryWindow.Proofs.Formats.Partial

**A pattern that tells too little for a timestamp reads none.** A time needs its minute, and a date
its year in one of four forms. Each of these fields is set by one kind of number and by nothing else
(`Item.number?_of_mem_reach`), so that a pattern without that number leaves it empty, whatever the
text is. What is missing is never filled up with zeros, nor taken from the reference.

Two items tell a whole moment by themselves, Unix seconds and the notation of RFC 3339, and are left
out here. A pattern with an invalid specifier reads nothing at all.
-/

namespace QueryWindow

/-! ### Numbers that alone set a field -/

/-- The number of an item that is one, however it is padded. -/
def Item.number? : Item → Option Quantity
  | number kind _ => some kind
  | _ => none

/-- The number that sets a field if no other item does. -/
def Field.onlySource? : Field → Option Quantity
  | year => some .year
  | century => some .century
  | yearOfCentury => some .yearOfCentury
  | isoYear => some .isoYear
  | isoYearOfCentury => some .isoYearOfCentury
  | quarter => some .quarter
  | day => some .day
  | weekFromSunday => some .weekFromSunday
  | weekFromMonday => some .weekFromMonday
  | isoWeek => some .isoWeek
  | ordinal => some .ordinal
  | minute => some .minute
  | second => some .second
  | unixSeconds => some .unixSeconds
  | month | weekday | half | hourOfHalf | nanosecond | offset => none

theorem Quantity.onlySource?_of_mem_mentions {kind other : Quantity} {field : Field}
    (hmem : field ∈ other.mentions) (h : field.onlySource? = some kind) : other = kind := by
  cases other <;>
    simp only [mentions, facts, List.map_cons, List.map_nil, List.mem_cons, List.not_mem_nil,
      or_false] at hmem
  case hour => rcases hmem with rfl | rfl <;> cases h
  all_goals
    subst hmem
    cases h
    try rfl

/-- Besides its number, only the notation of RFC 3339 sets such a field. -/
theorem Item.number?_of_mem_reach {item : Item} {field : Field} {kind : Quantity}
    (hmem : field ∈ item.reach) (h : field.onlySource? = some kind) :
    item = .zonedTimestamp ∨ item.number? = some kind := by
  cases item with
  | zonedTimestamp => exact Or.inl rfl
  | number other padding =>
      exact Or.inr (congrArg some (Quantity.onlySource?_of_mem_mentions hmem h))
  | literal | blank | zoneName | invalid => cases hmem
  | monthName | weekdayName | half | fraction | fractionAfterDot | fractionDigits | offset =>
      obtain rfl := List.mem_singleton.1 hmem
      cases h

/-! ### Fields that tell too little -/

namespace Fields

variable {fields : Fields}

/-- There is no time without a minute. -/
theorem time_ne_ok_of_minute (h : fields .minute = none) (time : Time) :
    fields.time ≠ .ok time := by
  unfold Fields.time
  rw [h]
  cases fields .half <;> cases fields .hourOfHalf <;> exact nofun

/-- There is no date without a year, of the calendar or of weeks, in full or within its century. A
century alone is no year. -/
theorem date_ne_ok_of_years (hyear : fields .year = none) (hrest : fields .yearOfCentury = none)
    (hisoYear : fields .isoYear = none) (hisoRest : fields .isoYearOfCentury = none) (date : Date) :
    fields.date ≠ .ok date := by
  intro hdate
  obtain ⟨year, isoYear, hcalendar, hweek, hproposed, -⟩ := date_eq_ok_iff.1 hdate
  have hnoYear : year = none := by
    unfold calendarYear at hcalendar
    rw [hyear, hrest] at hcalendar
    cases hcentury : fields .century with
    | none =>
        rw [hcentury] at hcalendar
        cases hcalendar
        rfl
    | some century =>
        rw [hcentury] at hcalendar
        cases hcalendar
  have hnoIsoYear : isoYear = none := by
    unfold weekYear at hweek
    rw [hisoYear, hisoRest] at hweek
    cases hweek
    rfl
  subst hnoYear hnoIsoYear
  cases hproposed

end Fields

/-! ### Patterns that tell too little -/

namespace Pattern

variable {pattern : String} {cs : List Char}

/-- The pattern has a number of this kind, its abbreviations being expanded. How the number is
padded makes no difference. -/
def Has (pattern : String) (kind : Quantity) : Prop :=
  ∃ item ∈ items pattern, item.number? = some kind

instance (pattern : String) (kind : Quantity) : Decidable (Has pattern kind) :=
  inferInstanceAs (Decidable (∃ item ∈ items pattern, item.number? = some kind))

/-- The forms in which a year may be given. -/
def yearKinds : List Quantity := [.year, .yearOfCentury, .isoYear, .isoYearOfCentury]

/-- Nothing in the pattern tells a whole moment by itself, and there is no minute or no year. -/
structure IsPartial (pattern : String) : Prop where
  noUnixSeconds : ¬ Has pattern .unixSeconds
  noZonedTimestamp : .zonedTimestamp ∉ items pattern
  lacks : ¬ Has pattern .minute ∨ ∀ kind ∈ yearKinds, ¬ Has pattern kind

theorem eq_none_of_not_has {fields : Fields} {field : Field} {kind : Quantity}
    (hread : readFields (items pattern) cs = .ok fields)
    (hzoned : .zonedTimestamp ∉ items pattern) (hsource : field.onlySource? = some kind)
    (hkind : ¬ Has pattern kind) : fields field = none := by
  refine eq_none_of_readFields hread fun item hitem hmem => ?_
  rcases Item.number?_of_mem_reach hmem hsource with rfl | hnumber
  · exact hzoned hitem
  · exact hkind ⟨item, hitem, hnumber⟩

/-- **A partial pattern reads no text as a timestamp.** -/
theorem IsPartial.timestamp?_eq_none (h : IsPartial pattern) (cs : List Char) :
    timestamp? pattern cs = none := by
  rw [Option.eq_none_iff_forall_ne_some]
  intro t hfound
  obtain ⟨fields, hread, ht⟩ := exceptBind_eq_ok.1 (toOption_eq_some.1 hfound)
  have hempty : ∀ {field kind}, Field.onlySource? field = some kind → ¬ Has pattern kind →
      fields field = none := eq_none_of_not_has hread h.noZonedTimestamp
  have hunix : fields .unixSeconds = none := hempty rfl h.noUnixSeconds
  -- Without Unix seconds, date and time have to be complete.
  unfold Fields.timestamp at ht
  rw [hunix] at ht
  obtain ⟨hdate, htime⟩ := Fields.dateAndTime_eq_ok_iff.1 ht
  rcases h.lacks with hminute | hyears
  · exact Fields.time_ne_ok_of_minute (hempty rfl hminute) t.time htime
  · have hnone : ∀ field kind, Field.onlySource? field = some kind → kind ∈ yearKinds →
        fields field = none := fun _ kind hsource hkind => hempty hsource (hyears kind hkind)
    exact Fields.date_ne_ok_of_years (hnone _ .year rfl (by decide))
      (hnone _ .yearOfCentury rfl (by decide)) (hnone _ .isoYear rfl (by decide))
      (hnone _ .isoYearOfCentury rfl (by decide)) t.date hdate

end Pattern

namespace Formats

/-- **A strict format never accepts part of a timestamp.** If its pattern has neither Unix seconds
nor the notation of RFC 3339, and no minute or no year, or if it has an invalid specifier, then
every text is refused, whatever the reference: as empty if it is blank, and else as unrecognised.
Such a pattern finds nothing among the patterns for timestamps of other formats either. -/
theorem parse_strict_of_partial {pattern : String}
    (h : Pattern.IsPartial pattern ∨ Pattern.IsBroken pattern) :
    (∀ (text : String) (reference : Timestamp), (strict pattern).parse text reference =
      .error (if trim text.toList = [] then .empty
        else .unrecognised (String.ofList (trim text.toList)))) ∧
    ∀ cs : List Char, Pattern.timestamp? pattern cs = none := by
  have hnone : ∀ cs, Pattern.timestamp? pattern cs = none := by
    intro cs
    rcases h with hpartial | hbroken
    · exact hpartial.timestamp?_eq_none cs
    · exact hbroken.toOption_eq_none Fields.timestamp cs
  refine ⟨fun text reference => ?_, hnone⟩
  have hfind : (strict pattern).find? (trim text.toList) reference = none := by
    simp only [find?, strict, List.findSome?_cons, hnone, List.findSome?_nil, Option.map_none]
    rfl
  unfold parse
  dsimp only
  rw [hfind]
  by_cases hblank : trim text.toList = []
  · rw [if_pos hblank, hblank]
    rfl
  · rw [if_neg hblank, if_neg (by simpa using hblank)]

example : Pattern.Has "%D" .yearOfCentury ∧ Pattern.Has "at %_M" .minute ∧
    ¬ Pattern.Has "%%M %F" .minute ∧ ¬ Pattern.Has "%r" .year := by decide

/-- A date and an hour without a minute, a century and a day of the year with all of a time, and a
whole timestamp before a percent sign that nothing follows. -/
theorem parse_strict_of_partial_century :
    (Pattern.IsPartial "%F %-Hh" ∧ (strict "%F %-Hh").parse "2024-02-29 12h" default =
      .error (.unrecognised "2024-02-29 12h")) ∧
    (Pattern.IsPartial "%C/%j %X" ∧ (strict "%C/%j %X").parse " 20/60 23:59:60" default =
      .error (.unrecognised "20/60 23:59:60")) ∧
    (Pattern.IsBroken "%c%" ∧
      Pattern.timestamp? "%c%" "Thu Feb 29 12:30:15 2024%".toList = none) := by
  have hhour : Pattern.IsPartial "%F %-Hh" := ⟨by decide, by decide, Or.inl (by decide)⟩
  have hcentury : Pattern.IsPartial "%C/%j %X" := ⟨by decide, by decide, Or.inr (by decide)⟩
  have hbroken : Pattern.IsBroken "%c%" := by decide
  exact ⟨⟨hhour, (parse_strict_of_partial (Or.inl hhour)).1 _ _⟩,
    ⟨hcentury, (parse_strict_of_partial (Or.inl hcentury)).1 _ _⟩,
    ⟨hbroken, (parse_strict_of_partial (Or.inr hbroken)).2 _⟩⟩

end Formats

end QueryWindow
