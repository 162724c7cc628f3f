import QueryWindow.Proofs.Formats.Attempts
import QueryWindow.Proofs.Formats.Grammar
import QueryWindow.Proofs.Pattern.Faithful

/-!
# QueryWindow.Proofs.Formats.Standard

**The standard formats accept the grammar and nothing else.** Each of the five patterns is first
divided into the pieces that its items take, which are the parts of a shape of the grammar; what the
fields then tell is the date and time of that shape. No text has two of the shapes, since they
differ in the number of colons and in whether there are hyphens. The attempts of the standard
formats are therefore exclusive (`Formats.exclusive_standard`), and any shape that a text has
decides.
-/

namespace QueryWindow

open Grammar

/-! ### Numbers -/

namespace Quantity

variable {kind : Quantity} {piece rest : List Char} {value : Int}

theorem numeral_iff_of_unsigned {most : Nat} (hs : kind.signed = false)
    (hw : kind.readWidth = some most) :
    kind.Numeral piece rest value ↔ ∃ blanks digits, piece = blanks ++ digits ∧ Blanks blanks ∧
      digits ≠ [] ∧ IsRun (some most) digits rest ∧ value = Digits.value 10 digits := by
  constructor
  · intro h
    cases h with
    | plain hb hne hrun => exact ⟨_, _, rfl, hb, hne, hw ▸ hrun, rfl⟩
    | positive hsigned => rw [hs] at hsigned; cases hsigned
    | negative hsigned => rw [hs] at hsigned; cases hsigned
  · intro h
    obtain ⟨blanks, digits, rfl, hb, hne, hrun, rfl⟩ := h
    exact .plain hb hne (hw ▸ hrun)

/-- Before anything but a digit, an unsigned number is one of the grammar. -/
theorem numeral_iff_natural {most : Nat} (hs : kind.signed = false)
    (hw : kind.readWidth = some most) (hr : ∀ c ∈ rest.head?, c.isDigit = false) :
    kind.Numeral piece rest value ↔ ∃ n : Nat, Natural most piece n ∧ value = n := by
  rw [numeral_iff_of_unsigned hs hw]
  constructor
  · intro h
    obtain ⟨blanks, digits, rfl, hb, hne, hrun, rfl⟩ := h
    exact ⟨_, .intro hb ⟨hne, hrun.allDigits⟩ (hrun.within most rfl), rfl⟩
  · intro h
    obtain ⟨n, hn, rfl⟩ := h
    obtain ⟨hb, hd, hmost⟩ := hn
    exact ⟨_, _, rfl, hb, hd.1,
      ⟨hd.2, fun limit hlimit => Option.some.inj hlimit ▸ hmost, Or.inr hr⟩,
      rfl⟩

theorem numeral_iff_year (hr : ∀ c ∈ rest.head?, c.isDigit = false) :
    year.Numeral piece rest value ↔ Year piece value := by
  constructor
  · intro h
    cases h with
    | plain hb hne hrun =>
        exact .unsigned (.intro hb ⟨hne, hrun.allDigits⟩ (hrun.within 4 rfl))
    | positive _ hb hne hrun => exact .positive hb ⟨hne, hrun.allDigits⟩
    | negative _ hb hne hrun => exact .negative hb ⟨hne, hrun.allDigits⟩
  · intro h
    cases h with
    | unsigned h =>
        obtain ⟨hb, hd, hmost⟩ := h
        exact .plain hb hd.1 ⟨hd.2, fun limit hlimit => Option.some.inj hlimit ▸ hmost, Or.inr hr⟩
    | positive hb hd =>
      exact .positive rfl hb hd.1 ⟨hd.2, (fun _ hlimit => nomatch hlimit), Or.inr hr⟩
    | negative hb hd =>
      exact .negative rfl hb hd.1 ⟨hd.2, (fun _ hlimit => nomatch hlimit), Or.inr hr⟩

/-- A day of one digit must not run into another digit. -/
theorem numeral_iff_day : day.Numeral piece rest value ↔ ∃ blanks digits, piece = blanks ++ digits ∧
    Blanks blanks ∧ IsDigits digits ∧ digits.length ≤ 2 ∧
      (digits.length = 1 → ∀ c ∈ rest.head?, c.isDigit = false) ∧
      value = Digits.value 10 digits := by
  rw [numeral_iff_of_unsigned rfl rfl]
  constructor
  · intro h
    obtain ⟨blanks, digits, rfl, hb, hne, ⟨hd, hmost, hends⟩, rfl⟩ := h
    refine ⟨blanks, digits, rfl, hb, ⟨hne, hd⟩, hmost 2 rfl, fun hone => ?_, rfl⟩
    rcases hends with hfull | hr
    · rw [hone] at hfull
      cases hfull
    · exact hr
  · intro h
    obtain ⟨blanks, digits, rfl, hb, ⟨hne, hd⟩, hmost, hone, rfl⟩ := h
    refine ⟨blanks, digits, rfl, hb, hne, ⟨hd, fun limit hlimit => ?_, ?_⟩, rfl⟩
    · obtain rfl := Option.some.inj hlimit
      exact hmost
    · have hpos := List.length_pos_iff.2 hne
      by_cases htwo : digits.length = 2
      · exact Or.inl (by rw [htwo]; rfl)
      · exact Or.inr (hone (by omega))

end Quantity

/-! ### Shapes as divisions of a text -/

/-- The value is one that a number may have when it is read. -/
def Quantity.Admits (kind : Quantity) (value : Int) : Prop :=
  kind.least ≤ value ∧ value ≤ kind.greatest

/-- The parts of a date are values that may be read. -/
def Date.Readable (date : Date) : Prop :=
  Quantity.year.Admits date.year ∧ Quantity.month.Admits date.month ∧
    Quantity.day.Admits date.day

theorem Date.Valid.readable {date : Date} (h : date.Valid) : date.Readable := by
  obtain ⟨hmin, hmax, hm1, hm12, hd1, hd⟩ := h
  have hlen := (monthLength_bounds date.year date.month).2
  simp only [minYear, maxYear] at hmin hmax
  unfold Date.Readable Quantity.Admits
  simp only [Quantity.least, Quantity.greatest, signedHalfWordLimit]
  omega

namespace Pattern

variable {cs : List Char} {facts : List (Field × Int)}

/-- What the digits of a date state. -/
def dateFacts (date : Date) : List (Field × Int) :=
  [(.year, date.year), (.month, (date.month : Int)), (.day, (date.day : Int))]

/-- No text that the items divide starts with a digit, so that a number before them ends where its
digits do. -/
def NoDigitFirst (items : List Item) : Prop :=
  ∀ rest more, Reads items rest more → ∀ c ∈ rest.head?, c.isDigit = false

theorem noDigitFirst_nil : NoDigitFirst [] := by
  intro rest more h
  rw [(reads_nil_iff.1 h).1]
  simp

theorem noDigitFirst_literal {c : Char} (hc : c.isDigit = false) (items : List Item) :
    NoDigitFirst (.literal c :: items) := by
  intro rest more h d hd
  obtain ⟨tail, rfl, -⟩ := reads_literal_cons_iff.1 h
  obtain rfl := Option.some.inj hd
  exact hc

theorem reads_year_cons_iff {items : List Item} {padding : Padding} (hitems : NoDigitFirst items) :
    Reads (.number .year padding :: items) cs facts ↔ ∃ piece rest year more, cs = piece ++ rest ∧
      Year piece year ∧ Quantity.year.Admits year ∧ Reads items rest more ∧
        facts = (.year, year) :: more := by
  rw [reads_number_cons_iff]
  constructor
  · intro h
    obtain ⟨piece, rest, year, more, rfl, hyear, hadmits, hrest, rfl⟩ := h
    exact ⟨piece, rest, year, more, rfl, (Quantity.numeral_iff_year (hitems _ _ hrest)).1 hyear,
      hadmits, hrest, rfl⟩
  · intro h
    obtain ⟨piece, rest, year, more, rfl, hyear, hadmits, hrest, rfl⟩ := h
    exact ⟨piece, rest, year, more, rfl, (Quantity.numeral_iff_year (hitems _ _ hrest)).2 hyear,
      hadmits, hrest, rfl⟩

theorem reads_natural_cons_iff {kind : Quantity} {most : Nat} {items : List Item}
    {padding : Padding} (hs : kind.signed = false) (hw : kind.readWidth = some most)
    (hitems : NoDigitFirst items) :
    Reads (.number kind padding :: items) cs facts ↔ ∃ piece rest more, ∃ n : Nat,
      cs = piece ++ rest ∧ Natural most piece n ∧ kind.Admits n ∧ Reads items rest more ∧
        facts = kind.facts n ++ more := by
  rw [reads_number_cons_iff]
  constructor
  · intro h
    obtain ⟨piece, rest, value, more, rfl, hnumeral, hadmits, hrest, rfl⟩ := h
    obtain ⟨n, hn, rfl⟩ := (Quantity.numeral_iff_natural hs hw (hitems _ _ hrest)).1 hnumeral
    exact ⟨piece, rest, more, n, rfl, hn, hadmits, hrest, rfl⟩
  · intro h
    obtain ⟨piece, rest, more, n, rfl, hn, hadmits, hrest, rfl⟩ := h
    exact ⟨piece, rest, n, more, rfl,
      (Quantity.numeral_iff_natural hs hw (hitems _ _ hrest)).2 ⟨n, hn, rfl⟩, hadmits, hrest, rfl⟩

/-- Year and month end at a hyphen; the day may be followed by anything. -/
theorem reads_date_append_iff {items : List Item} :
    Reads (Item.hyphenatedDate ++ items) cs facts ↔
      ∃ front day rest date more, cs = front ++ (day ++ rest) ∧ DateText front day date ∧
        date.Readable ∧ (day.length = 1 → ∀ c ∈ rest.head?, c.isDigit = false) ∧
        Reads items rest more ∧ facts = dateFacts date ++ more := by
  have hhyphen : ∀ items, NoDigitFirst (.literal '-' :: items) := noDigitFirst_literal (by decide)
  simp only [Item.hyphenatedDate, List.cons_append, List.nil_append]
  constructor
  · intro h
    obtain ⟨y, _, year, _, rfl, hy, hyear, hafterYear, rfl⟩ := (reads_year_cons_iff (hhyphen _)).1 h
    obtain ⟨_, rfl, hmonths⟩ := reads_literal_cons_iff.1 hafterYear
    obtain ⟨m, _, _, month, rfl, hm, hmonth, hafterMonth, rfl⟩ :=
      (reads_natural_cons_iff rfl rfl (hhyphen _)).1 hmonths
    obtain ⟨_, rfl, hdays⟩ := reads_literal_cons_iff.1 hafterMonth
    obtain ⟨d, rest, _, more, rfl, hd, hday, hrest, rfl⟩ := reads_number_cons_iff.1 hdays
    obtain ⟨blanks, digits, rfl, hb, hdigits, hmost, hone, rfl⟩ := Quantity.numeral_iff_day.1 hd
    exact ⟨_, digits, rest, _, more, by simp, .intro hy hm hb hdigits hmost,
      ⟨hyear, hmonth, hday⟩, hone, hrest, rfl⟩
  · intro h
    obtain ⟨_, digits, rest, _, more, rfl, hdate, ⟨hyear, hmonth, hday⟩, hone, hrest, rfl⟩ := h
    obtain @⟨y, m, blanks, _, year, month, hy, hm, hb, hdigits, hmost⟩ := hdate
    have hd := Quantity.numeral_iff_day.2 ⟨blanks, digits, rfl, hb, hdigits, hmost, hone, rfl⟩
    have hdays : Reads (.number .day .zero :: items) (blanks ++ digits ++ rest) _ :=
      reads_number_cons_iff.2 ⟨blanks ++ digits, rest, _, more, rfl, hd, hday, hrest, rfl⟩
    have hmonths : Reads (.number .month .zero :: .literal '-' :: .number .day .zero :: items)
        (m ++ '-' :: (blanks ++ digits ++ rest)) _ :=
      (reads_natural_cons_iff rfl rfl (hhyphen _)).2
        ⟨m, _, _, month, rfl, hm, hmonth, reads_literal_cons_iff.2 ⟨_, rfl, hdays⟩, rfl⟩
    exact (reads_year_cons_iff (hhyphen _)).2 ⟨y, _, year, _, by simp, hy, hyear,
      reads_literal_cons_iff.2 ⟨_, rfl, hmonths⟩, rfl⟩

/-- What the digits of a time state, that of the second only if it is there. -/
def timeFacts (seconds : Bool) (hour minute second : Nat) : List (Field × Int) :=
  [(.half, (hour : Int) / 12), (.hourOfHalf, (hour : Int) % 12), (.minute, (minute : Int))] ++
    if seconds then [(.second, (second : Int))] else []

theorem reads_hourMinute_append_iff {items : List Item} (hitems : NoDigitFirst items) :
    Reads (Item.hourMinute ++ items) cs facts ↔
      ∃ clock rest hour minute more, cs = clock ++ rest ∧ TimeText false clock hour minute 0 ∧
        Reads items rest more ∧ facts = timeFacts false hour minute 0 ++ more := by
  have hcolon : ∀ items, NoDigitFirst (.literal ':' :: items) := noDigitFirst_literal (by decide)
  simp only [Item.hourMinute, List.cons_append, List.nil_append]
  constructor
  · intro hreads
    obtain ⟨h, _, _, hour, rfl, hh, hhour, htail, rfl⟩ :=
      (reads_natural_cons_iff rfl rfl (hcolon _)).1 hreads
    obtain ⟨_, rfl, hminutes⟩ := reads_literal_cons_iff.1 htail
    obtain ⟨m, rest, more, minute, rfl, hm, hminute, hrest, rfl⟩ :=
      (reads_natural_cons_iff rfl rfl hitems).1 hminutes
    exact ⟨h ++ ':' :: m, rest, hour, minute, more, by simp,
      .minutes hh hm (Int.ofNat_le.1 hhour.2) (Int.ofNat_le.1 hminute.2), hrest, rfl⟩
  · intro h
    obtain ⟨_, rest, hour, minute, more, rfl, htime, hrest, rfl⟩ := h
    cases htime with
    | @minutes h m _ _ hh hm hhour hminute =>
        have hminutes : Reads (.number .minute .zero :: items) (m ++ rest) _ :=
          (reads_natural_cons_iff rfl rfl hitems).2 ⟨m, rest, more, minute, rfl, hm,
            ⟨Int.natCast_nonneg _, Int.ofNat_le.2 hminute⟩, hrest, rfl⟩
        exact (reads_natural_cons_iff rfl rfl (hcolon _)).2 ⟨h, _, _, hour, by simp, hh,
          ⟨Int.natCast_nonneg _, Int.ofNat_le.2 hhour⟩,
          reads_literal_cons_iff.2 ⟨_, rfl, hminutes⟩, rfl⟩

/-- The items of a time, with a second or without. -/
def timeItems (seconds : Bool) : List Item :=
  if seconds then Item.hourMinuteSecond else Item.hourMinute

theorem reads_time_iff {seconds : Bool} :
    Reads (timeItems seconds) cs facts ↔ ∃ hour minute second,
      TimeText seconds cs hour minute second ∧ facts = timeFacts seconds hour minute second := by
  cases seconds with
  | false =>
      show Reads (Item.hourMinute ++ []) cs facts ↔ _
      rw [reads_hourMinute_append_iff noDigitFirst_nil]
      constructor
      · intro h
        obtain ⟨clock, rest, hour, minute, more, rfl, htime, hrest, rfl⟩ := h
        obtain ⟨rfl, rfl⟩ := reads_nil_iff.1 hrest
        exact ⟨hour, minute, 0, by simpa using htime, by simp⟩
      · intro h
        obtain ⟨hour, minute, second, htime, rfl⟩ := h
        cases htime with
        | minutes hh hm hhour hminute =>
            exact ⟨_, [], hour, minute, [], by simp, .minutes hh hm hhour hminute, .nil, by simp⟩
  | true =>
      show Reads (Item.hourMinute ++ [.literal ':', .number .second .zero]) cs facts ↔ _
      rw [reads_hourMinute_append_iff (noDigitFirst_literal (by decide) _)]
      constructor
      · intro h
        obtain ⟨clock, _, hour, minute, _, rfl, htime, htail, rfl⟩ := h
        obtain ⟨_, rfl, hseconds⟩ := reads_literal_cons_iff.1 htail
        obtain ⟨s, _, _, second, rfl, hs, hsecond, hnil, rfl⟩ :=
          (reads_natural_cons_iff rfl rfl noDigitFirst_nil).1 hseconds
        obtain ⟨rfl, rfl⟩ := reads_nil_iff.1 hnil
        exact ⟨hour, minute, second, by simpa using .seconds htime hs (Int.ofNat_le.1 hsecond.2), rfl⟩
      · intro h
        obtain ⟨hour, minute, second, htime, rfl⟩ := h
        cases htime with
        | @seconds clock s _ _ _ htime hs hsecond =>
            have hrest : Reads [.number .second .zero] s _ :=
              (reads_natural_cons_iff rfl rfl noDigitFirst_nil).2 ⟨s, [], [], second, by simp, hs,
                ⟨Int.natCast_nonneg _, Int.ofNat_le.2 hsecond⟩, .nil, rfl⟩
            exact ⟨clock, ':' :: s, hour, minute, _, rfl, htime,
              reads_literal_cons_iff.2 ⟨s, rfl, hrest⟩, rfl⟩

/-- The blanks between date and time, and those in front of the hour, are skipped together. -/
theorem reads_timestamp_iff {seconds : Bool} :
    Reads (Item.hyphenatedDate ++ .blank ' ' :: timeItems seconds) cs facts ↔
      ∃ date hour minute second, TimestampText seconds cs date hour minute second ∧
        date.Readable ∧ facts = dateFacts date ++ timeFacts seconds hour minute second := by
  rw [reads_date_append_iff]
  constructor
  · intro h
    obtain ⟨front, day, rest, date, more, rfl, hdate, hreadable, hjoint, hrest, rfl⟩ := h
    rw [reads_blank_cons_iff, reads_time_iff] at hrest
    obtain ⟨hour, minute, second, htime, rfl⟩ := hrest
    obtain ⟨gap, hgap, hrest⟩ := exists_blanks rest
    rw [hrest] at hjoint ⊢
    exact ⟨date, hour, minute, second, .intro hdate hgap htime hjoint, hreadable, rfl⟩
  · intro h
    obtain ⟨date, hour, minute, second, htext, hreadable, rfl⟩ := h
    obtain @⟨front, day, gap, clock, _, _, _, _, hdate, hgap, htime, hjoint⟩ := htext
    refine ⟨front, day, gap ++ clock, date, _, rfl, hdate, hreadable, hjoint, ?_, rfl⟩
    rw [reads_blank_cons_iff, reads_time_iff, skipBlanks_append hgap]
    exact ⟨hour, minute, second, htime.skipped.1, rfl⟩

/-- If the text divides exactly into what displays of some kind state, then what is made of the
fields is what is made of such a display. -/
theorem bind_readFields_iff {α : Type} {items : List Item} {Shows Means : Display → Prop}
    {use : Fields → Except ReadError α} {a : α} (hitems : ∀ item ∈ items, item.isCommon = true)
    (hreads : ∀ facts, Reads items cs facts ↔
      ∃ display, Shows display ∧ facts = items.flatMap (Item.states display))
    (huse : ∀ fields display, Shows display → fields.Say (items.flatMap Item.mentions) display →
      (use fields = .ok a ↔ Means display)) :
    (readFields items cs).bind use = .ok a ↔ ∃ display, Shows display ∧ Means display := by
  rw [exceptBind_eq_ok]
  constructor
  · intro h
    obtain ⟨fields, hfields, h⟩ := h
    obtain ⟨facts, hfacts, hset⟩ := (readFields_eq_ok_iff hitems).1 hfields
    obtain ⟨display, hshows, rfl⟩ := (hreads facts).1 hfacts
    obtain ⟨said, hsaid, hsay⟩ := exists_say display items
    rw [hsaid] at hset
    cases hset
    exact ⟨display, hshows, (huse _ _ hshows hsay).1 h⟩
  · intro h
    obtain ⟨display, hshows, hmeans⟩ := h
    obtain ⟨fields, hset, hsay⟩ := exists_say display items
    exact ⟨fields, (readFields_eq_ok_iff hitems).2 ⟨_, (hreads _).2 ⟨display, hshows, rfl⟩, hset⟩,
      (huse _ _ hshows hsay).2 hmeans⟩

/-- A pattern for year, month and day reads the dates of the grammar that the calendar has. -/
theorem date?_eq_some_iff {pattern : String} (hpattern : items pattern = Item.hyphenatedDate)
    {date : Date} : date? pattern cs = some date ↔
      ∃ front day, cs = front ++ day ∧ DateText front day date ∧ date.Valid := by
  have hreads : ∀ facts, Reads Item.hyphenatedDate cs facts ↔ ∃ display : Display,
      (display.date.Readable ∧ ∃ front day, cs = front ++ day ∧ DateText front day display.date) ∧
        facts = Item.hyphenatedDate.flatMap (Item.states display) := by
    intro facts
    have happend := @reads_date_append_iff cs facts []
    rw [List.append_nil] at happend
    rw [happend]
    constructor
    · intro h
      obtain ⟨front, day, rest, date, more, rfl, hdate, hreadable, -, hrest, rfl⟩ := h
      obtain ⟨rfl, rfl⟩ := reads_nil_iff.1 hrest
      exact ⟨⟨date.year, date.month, date.day, 0, 0, 0, 0⟩,
        ⟨hreadable, front, day, by simp, hdate⟩, rfl⟩
    · intro h
      obtain ⟨display, ⟨hreadable, front, day, rfl, hdate⟩, rfl⟩ := h
      exact ⟨front, day, [], display.date, [], by simp, hdate, hreadable, by simp, .nil, rfl⟩
  rw [date?, toOption_eq_some, hpattern, bind_readFields_iff (by decide) hreads fun _ _ _ hsay =>
    hsay.date_eq_ok_iff (by decide) (by decide) (by decide) (by decide)]
  constructor
  · intro h
    obtain ⟨display, ⟨-, front, day, hcs, hdate⟩, rfl, hvalid⟩ := h
    exact ⟨front, day, hcs, hdate, hvalid⟩
  · intro h
    obtain ⟨front, day, hcs, hdate, hvalid⟩ := h
    exact ⟨⟨date.year, date.month, date.day, 0, 0, 0, 0⟩,
      ⟨hvalid.readable, front, day, hcs, hdate⟩, rfl, hvalid⟩

/-- The fields of a time tell it, also when they are given together with those of a date. -/
theorem time_eq_of_say {seconds : Bool} {mentioned : List Field} {fields : Fields}
    {display : Display}
    (hsay : fields.Say mentioned display)
    (hclock : ∀ field ∈ (timeItems seconds).flatMap Item.mentions, field ∈ mentioned)
    (hnano : .nanosecond ∉ mentioned ∧ display.nano = 0)
    (hsecond : seconds = true ∨ display.second = 0) : fields.time = .ok display.time := by
  have hminutes : ∀ field ∈ [Field.half, .hourOfHalf, .minute], field ∈ mentioned := by
    intro field hfield
    refine hclock field ?_
    cases seconds with
    | false => exact hfield
    | true => exact List.mem_append_left [Field.second] hfield
  have hsecond : .second ∈ mentioned ∨ display.second = 0 ∧ .nanosecond ∉ mentioned := by
    rcases hsecond with rfl | hzero
    · exact Or.inl (hclock .second (by decide))
    · exact Or.inr ⟨hzero, hnano.1⟩
  exact hsay.time_eq (hminutes _ (by decide)) (hminutes _ (by decide)) (hminutes _ (by decide))
    hsecond (Or.inr hnano.2)

/-- A pattern for hour, minute and maybe second reads the times of the grammar. -/
theorem time?_eq_some_iff {pattern : String} {seconds : Bool}
    (hpattern : items pattern = timeItems seconds) {time : Time} :
    time? pattern cs = some time ↔ ∃ hour minute second,
      TimeText seconds cs hour minute second ∧ time = .ofClock hour minute second 0 := by
  have hitems : ∀ item ∈ timeItems seconds, item.isCommon = true := by
    cases seconds <;> decide
  have hreads : ∀ facts, Reads (timeItems seconds) cs facts ↔ ∃ display : Display,
      (display.nano = 0 ∧ TimeText seconds cs display.hour display.minute display.second) ∧
        facts = (timeItems seconds).flatMap (Item.states display) := by
    intro facts
    rw [reads_time_iff]
    constructor
    · intro h
      obtain ⟨hour, minute, second, htime, rfl⟩ := h
      exact ⟨⟨0, 0, 0, hour, minute, second, 0⟩, ⟨rfl, htime⟩, by cases seconds <;> rfl⟩
    · intro h
      obtain ⟨display, ⟨-, htime⟩, rfl⟩ := h
      exact ⟨_, _, _, htime, by cases seconds <;> rfl⟩
  have hmentioned : .nanosecond ∉ (timeItems seconds).flatMap Item.mentions := by
    cases seconds <;> decide
  rw [time?, toOption_eq_some, hpattern, bind_readFields_iff hitems hreads fun _ _ hshows hsay => by
    rw [time_eq_of_say hsay (fun _ hfield => hfield) ⟨hmentioned, hshows.1⟩ hshows.2.second_cases,
      Except.ok.injEq]]
  constructor
  · intro h
    obtain ⟨display, ⟨hnano, htime⟩, rfl⟩ := h
    exact ⟨_, _, _, htime, by rw [Display.time, hnano]⟩
  · intro h
    obtain ⟨hour, minute, second, htime, rfl⟩ := h
    exact ⟨⟨0, 0, 0, hour, minute, second, 0⟩, ⟨rfl, htime⟩, rfl⟩

/-- The items of a date, any blanks, and a time. -/
def timestampItems (seconds : Bool) : List Item :=
  Item.hyphenatedDate ++ .blank ' ' :: timeItems seconds

theorem timestamp_eq_ok_iff_of_say {seconds : Bool} {fields : Fields} {display : Display}
    {t : Timestamp}
    (hsay : fields.Say ((timestampItems seconds).flatMap Item.mentions) display)
    (hnano : display.nano = 0) (hsecond : seconds = true ∨ display.second = 0) :
    fields.timestamp = .ok t ↔ display.date.Valid ∧ t = ⟨display.date, display.time⟩ := by
  have husual : ∀ field ∈ (timestampItems seconds).flatMap Item.mentions,
      field.isUsual = true := by
    cases seconds <;> decide
  have hdate : ∀ field ∈ [Field.year, .month, .day],
      field ∈ (timestampItems seconds).flatMap Item.mentions := by
    cases seconds <;> decide
  have hclock : ∀ field ∈ (timeItems seconds).flatMap Item.mentions,
      field ∈ (timestampItems seconds).flatMap Item.mentions := by
    cases seconds <;> decide
  have hmentioned : .nanosecond ∉ (timestampItems seconds).flatMap Item.mentions := by
    cases seconds <;> decide
  rw [hsay.timestamp_eq husual, Fields.dateAndTime_eq_ok_iff, hsay.date_eq_ok_iff husual
    (hdate _ (by decide)) (hdate _ (by decide)) (hdate _ (by decide)),
    time_eq_of_say hsay hclock ⟨hmentioned, hnano⟩ hsecond]
  constructor
  · intro h
    obtain ⟨⟨hd, hvalid⟩, ht⟩ := h
    rw [hd] at hvalid
    refine ⟨hvalid, ?_⟩
    rw [← hd, Except.ok.inj ht]
  · intro h
    obtain ⟨hvalid, rfl⟩ := h
    exact ⟨⟨rfl, hvalid⟩, rfl⟩

/-- A pattern for all of them reads the timestamps of the grammar whose date the calendar has. -/
theorem timestamp?_eq_some_iff {pattern : String} {seconds : Bool}
    (hpattern : items pattern = timestampItems seconds) {t : Timestamp} :
    timestamp? pattern cs = some t ↔ ∃ date hour minute second,
      TimestampText seconds cs date hour minute second ∧ date.Valid ∧
        t = ⟨date, .ofClock hour minute second 0⟩ := by
  have hitems : ∀ item ∈ timestampItems seconds, item.isCommon = true := by
    cases seconds <;> decide
  have hreads : ∀ facts, Reads (timestampItems seconds) cs facts ↔ ∃ display : Display,
      (display.nano = 0 ∧ display.date.Readable ∧
        TimestampText seconds cs display.date display.hour display.minute display.second) ∧
          facts = (timestampItems seconds).flatMap (Item.states display) := by
    intro facts
    rw [timestampItems, reads_timestamp_iff]
    constructor
    · intro h
      obtain ⟨date, hour, minute, second, htext, hreadable, rfl⟩ := h
      exact ⟨⟨date.year, date.month, date.day, hour, minute, second, 0⟩, ⟨rfl, hreadable, htext⟩,
        by cases seconds <;> rfl⟩
    · intro h
      obtain ⟨display, ⟨-, hreadable, htext⟩, rfl⟩ := h
      exact ⟨_, _, _, _, htext, hreadable, by cases seconds <;> rfl⟩
  rw [timestamp?, toOption_eq_some, hpattern, bind_readFields_iff hitems hreads
    fun _ _ hshows hsay => timestamp_eq_ok_iff_of_say hsay hshows.1 hshows.2.2.second_cases]
  constructor
  · intro h
    obtain ⟨display, ⟨hnano, -, htext⟩, hvalid, rfl⟩ := h
    exact ⟨_, _, _, _, htext, hvalid, by rw [Display.time, hnano]⟩
  · intro h
    obtain ⟨date, hour, minute, second, htext, hvalid, rfl⟩ := h
    exact ⟨⟨date.year, date.month, date.day, hour, minute, second, 0⟩,
      ⟨rfl, hvalid.readable, htext⟩, hvalid, rfl⟩

end Pattern

/-! ### The standard formats -/

namespace Formats

variable {cs : List Char} {reference t : Timestamp} {pattern other : String} {aim aim' : Aim}

/-- The items of the standard patterns, with the colons and hyphens among them. -/
theorem items_of_mem_dateTime : ∀ pattern ∈ standard.dateTime, ∃ seconds,
    Pattern.items pattern = Pattern.timestampItems seconds ∧
      (pattern.toList.count ':' = if seconds then 2 else 1) ∧ '-' ∈ pattern.toList := by
  decide

theorem items_of_mem_date : ∀ pattern ∈ standard.date,
    Pattern.items pattern = Item.hyphenatedDate ∧ pattern.toList.count ':' = 0 ∧
      '-' ∈ pattern.toList := by
  decide

theorem items_of_mem_time : ∀ pattern ∈ standard.time, ∃ seconds,
    Pattern.items pattern = Pattern.timeItems seconds ∧
      (pattern.toList.count ':' = if seconds then 2 else 1) ∧ '-' ∉ pattern.toList := by
  decide

/-- There is a standard pattern with seconds and one without. -/
theorem exists_mem_dateTime (seconds : Bool) : ∃ pattern ∈ standard.dateTime,
    Pattern.items pattern = Pattern.timestampItems seconds := by
  revert seconds
  decide

theorem exists_mem_time (seconds : Bool) : ∃ pattern ∈ standard.time,
    Pattern.items pattern = Pattern.timeItems seconds := by
  revert seconds
  decide

/-- A text has the colons of the standard pattern that accepts it, and hyphens if that has some. -/
theorem shape_of_accepts (hmem : pattern ∈ standard.patterns aim) (h : aim.Accepts pattern cs) :
    cs.count ':' = pattern.toList.count ':' ∧ ('-' ∈ cs ↔ '-' ∈ pattern.toList) := by
  cases aim with
  | timestamp =>
      obtain ⟨found, hfound⟩ := Option.isSome_iff_exists.1 h
      obtain ⟨seconds, hitems, hcount, hhyphen⟩ := items_of_mem_dateTime pattern hmem
      obtain ⟨_, _, _, _, htext, -, -⟩ := (Pattern.timestamp?_eq_some_iff hitems).1 hfound
      exact ⟨htext.count_colon.trans hcount.symm, iff_of_true htext.hyphen_mem hhyphen⟩
  | date =>
      obtain ⟨found, hfound⟩ := Option.isSome_iff_exists.1 h
      obtain ⟨hitems, hcount, hhyphen⟩ := items_of_mem_date pattern hmem
      obtain ⟨front, day, rfl, htext, -⟩ := (Pattern.date?_eq_some_iff hitems).1 hfound
      have hcolon : (front ++ day).count ':' = 0 :=
        htext.count_eq_zero (by decide) (by decide) (by decide)
      exact ⟨hcolon.trans hcount.symm,
        iff_of_true (List.mem_append_left _ htext.hyphen_mem) hhyphen⟩
  | time =>
      obtain ⟨found, hfound⟩ := Option.isSome_iff_exists.1 h
      obtain ⟨seconds, hitems, hcount, hhyphen⟩ := items_of_mem_time pattern hmem
      obtain ⟨_, _, _, htext, -⟩ := (Pattern.time?_eq_some_iff hitems).1 hfound
      have hnone : cs.count '-' = 0 := htext.count_eq_zero (by decide) (by decide) (by decide)
      exact ⟨htext.count_colon.trans hcount.symm, iff_of_false (List.count_eq_zero.1 hnone) hhyphen⟩

/-- The standard patterns differ in their colons and hyphens. -/
theorem eq_of_same_shape : ∀ aim aim' : Aim, ∀ pattern ∈ standard.patterns aim,
    ∀ other ∈ standard.patterns aim', pattern.toList.count ':' = other.toList.count ':' →
      ('-' ∈ pattern.toList ↔ '-' ∈ other.toList) → aim = aim' ∧ pattern = other := by
  intro aim aim'
  cases aim <;> cases aim' <;> decide

/-- **No text is accepted by two standard patterns.** -/
theorem exclusive_standard (cs : List Char) : standard.Exclusive cs := by
  intro aim aim' pattern hmem other hmem' h h'
  obtain ⟨hcolon, hhyphen⟩ := shape_of_accepts hmem h
  obtain ⟨hcolon', hhyphen'⟩ := shape_of_accepts hmem' h'
  exact eq_of_same_shape aim aim' pattern hmem other hmem' (hcolon.symm.trans hcolon')
    (hhyphen.symm.trans hhyphen')

/-- What is found by the standard patterns is what the text denotes. -/
theorem find?_standard_iff_denotes :
    standard.find? cs reference = some t ↔ Denotes reference cs t := by
  rw [find?_eq_some_iff (exclusive_standard cs)]
  constructor
  · intro h
    obtain ⟨aim, pattern, hmem, hread⟩ := h
    cases aim with
    | timestamp =>
        obtain ⟨seconds, hitems, -⟩ := items_of_mem_dateTime pattern hmem
        obtain ⟨_, _, _, _, htext, hvalid, rfl⟩ := (Pattern.timestamp?_eq_some_iff hitems).1 hread
        exact .timestamp htext hvalid
    | date =>
        obtain ⟨hitems, -⟩ := items_of_mem_date pattern hmem
        obtain ⟨found, hfound, rfl⟩ := Option.map_eq_some_iff.1 hread
        obtain ⟨_, _, rfl, htext, hvalid⟩ := (Pattern.date?_eq_some_iff hitems).1 hfound
        exact .date htext hvalid
    | time =>
        obtain ⟨seconds, hitems, -⟩ := items_of_mem_time pattern hmem
        obtain ⟨found, hfound, rfl⟩ := Option.map_eq_some_iff.1 hread
        obtain ⟨_, _, _, htext, rfl⟩ := (Pattern.time?_eq_some_iff hitems).1 hfound
        exact .time htext
  · intro h
    cases h with
    | @date front day date htext hvalid =>
        have hfound := (@Pattern.date?_eq_some_iff _ "%Y-%m-%d" rfl date).2
          ⟨front, day, rfl, htext, hvalid⟩
        exact ⟨.date, "%Y-%m-%d", by decide, Option.map_eq_some_iff.2 ⟨date, hfound, rfl⟩⟩
    | @time seconds _ hour minute second htext =>
        obtain ⟨pattern, hmem, hitems⟩ := exists_mem_time seconds
        have hfound := (Pattern.time?_eq_some_iff hitems).2 ⟨hour, minute, second, htext, rfl⟩
        exact ⟨.time, pattern, hmem, Option.map_eq_some_iff.2 ⟨_, hfound, rfl⟩⟩
    | @timestamp seconds _ date hour minute second htext hvalid =>
        obtain ⟨pattern, hmem, hitems⟩ := exists_mem_dateTime seconds
        exact ⟨.timestamp, pattern, hmem, (Pattern.timestamp?_eq_some_iff hitems).2
          ⟨date, hour, minute, second, htext, hvalid, rfl⟩⟩

/-- **The standard formats accept exactly the texts of the grammar**, once the blanks around them
are gone, and read them as what they denote. -/
theorem parse_standard_eq_ok_iff (text : String) (reference t : Timestamp) :
    standard.parse text reference = .ok t ↔ Denotes reference (trim text.toList) t := by
  rw [parse_eq_ok_iff, find?_standard_iff_denotes]
  constructor
  · intro h
    exact h.2
  · intro h
    exact ⟨h.ne_nil, h⟩

example (reference : Timestamp) : standard.parse " -12- 3-1\t1:05: 60 " reference =
    .ok ⟨⟨-12, 3, 1⟩, ⟨3959, nanosPerSecond⟩⟩ := by
  rfl

end Formats

end QueryWindow
