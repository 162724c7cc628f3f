import Mathlib.Data.List.Basic
import QueryWindow.Proofs.Formats.Standard
import QueryWindow.Window

/-!
# QueryWindow.Proofs.Formats.Application

**What is written in the application's pattern is read back by it**, for every timestamp of the
calendar. A year of more than four digits, or before year 0, has a sign, and with a sign any number
of digits is read; the hyphen behind the year ends it. What is written is therefore a text of the
grammar (`Timestamp.timestampText_written`), and the grammar says what it means. Only the part below
the second is not written.

The text of a window is that of its ends with a slash between them. No text of the grammar has a
slash, so that the ends can be told apart again.
-/

namespace QueryWindow

open Grammar

variable {t : Timestamp}

/-! ### Numbers as they are written -/

theorem isDigits_padded (width n : Nat) : IsDigits (Digits.padded width n) :=
  ⟨Digits.padded_ne_nil width n, fun _ => Digits.isDigit_of_mem_padded⟩

theorem natural_padded {width n : Nat} (hw : 0 < width) (h : n < 10 ^ width) :
    Natural width (Digits.padded width n) n := by
  have hnatural := @Natural.intro width [] _ (by simp [Blanks]) (isDigits_padded width n)
    (Digits.length_padded hw h).le
  rw [Digits.value_padded] at hnatural
  exact hnatural

theorem Quantity.write_eq_padded (kind : Quantity) (h : kind.isUsual = true) (hyear : kind ≠ .year)
    (ht : t.Valid) {n : Nat} (hn : kind.valueOf t = n) :
    kind.write .zero t = Digits.padded kind.writtenWidth n ∧ n < 10 ^ kind.writtenWidth := by
  obtain ⟨m, hm, hlt, -, -⟩ := exists_valueOf h ht fun heq => absurd heq hyear
  obtain rfl : n = m := Int.ofNat.inj (hn.symm.trans hm)
  exact ⟨write_of_valueOf h (fun heq => absurd heq hyear) hn, hlt⟩

/-- Any number but the year is written with a width of its own, and without a sign. -/
theorem Quantity.natural_write (kind : Quantity) (h : kind.isUsual = true) (hyear : kind ≠ .year)
    (ht : t.Valid) {n : Nat} (hn : kind.valueOf t = n) :
    Natural kind.writtenWidth (kind.write .zero t) n := by
  obtain ⟨hwrite, hlt⟩ := kind.write_eq_padded h hyear ht hn
  have hwidth : 0 < kind.writtenWidth := by cases kind <;> decide
  rw [hwrite]
  exact natural_padded hwidth hlt

/-- **Every year is written as one that is read**: with four digits, or with a sign and however many
digits it has. -/
theorem year_writeYear (year : Int) : Year (writeYear .zero year) year := by
  have hblanks : Blanks [] := by simp [Blanks]
  have hdigits := isDigits_padded 4 year.natAbs
  have hvalue := Digits.value_padded 4 year.natAbs
  unfold writeYear
  by_cases hplain : 0 ≤ year ∧ year < 10000
  · have hnatural := natural_padded (show 0 < 4 by decide) (show year.natAbs < 10 ^ 4 by omega)
    have hyear := Year.unsigned hnatural
    rw [Int.natAbs_of_nonneg hplain.1] at hyear
    rw [if_pos hplain]
    exact hyear
  · rw [if_neg hplain]
    by_cases hnegative : year < 0
    · have hyear := Year.negative hblanks hdigits
      rw [hvalue, Int.ofNat_natAbs_of_nonpos (Int.le_of_lt hnegative), Int.neg_neg] at hyear
      rw [if_pos hnegative]
      exact hyear
    · have hyear := Year.positive hblanks hdigits
      rw [hvalue, Int.natAbs_of_nonneg (Int.not_lt.1 hnegative)] at hyear
      rw [if_neg hnegative]
      exact hyear

theorem isSolid_writeYear (year : Int) : IsSolid (writeYear .zero year) := by
  have hdigits : ∀ c ∈ Digits.padded 4 year.natAbs, isBlank c = false :=
    fun c hc => isBlank_of_isDigit (Digits.isDigit_of_mem_padded hc)
  unfold writeYear
  split
  · exact ⟨Digits.padded_ne_nil 4 _, hdigits⟩
  · refine ⟨by simp [fill], fun c hc => ?_⟩
    rcases List.mem_cons.1 hc with rfl | hc
    · split <;> decide
    · exact hdigits c hc

/-! ### Timestamps as they are written -/

namespace Timestamp

/-- What is written of a timestamp, in the parts of the grammar. -/
theorem written_timestampItems (t : Timestamp) :
    Pattern.written t (Pattern.timestampItems true) =
      (writeYear .zero t.date.year ++ '-' :: (Quantity.month.write .zero t ++ '-' :: [])) ++
        (Quantity.day.write .zero t ++ ([' '] ++
          ((Quantity.hour.write .zero t ++ ':' :: Quantity.minute.write .zero t) ++
            ':' :: Quantity.second.write .zero t))) := by
  simp [Pattern.written, Pattern.timestampItems, Pattern.timeItems, Item.hyphenatedDate,
    Item.hourMinuteSecond, Item.hourMinute, Item.write?, Quantity.write, Quantity.valueOf]

/-- **What is written of a timestamp is a text of the grammar**, of what calendar and clock show. -/
theorem timestampText_written (ht : t.Valid) :
    TimestampText true (Pattern.written t (Pattern.timestampItems true)) t.date t.display.hour
      t.display.minute t.display.second := by
  have hnothing : Blanks [] := by simp [Blanks]
  obtain ⟨hday, hdaylt⟩ := Quantity.day.write_eq_padded rfl (by decide) ht rfl
  have hlength : (Digits.padded 2 t.date.day).length = 2 := Digits.length_padded (by decide) hdaylt
  have hdate := DateText.intro (year_writeYear t.date.year)
    (Quantity.month.natural_write rfl (by decide) ht rfl) hnothing (isDigits_padded 2 t.date.day)
    hlength.le
  rw [Digits.value_padded] at hdate
  have hclock : t.time.hour ≤ 23 ∧ t.time.minute ≤ 59 ∧ t.display.second ≤ 60 := by
    obtain ⟨-, hsecond, hnano, -⟩ := ht
    simp only [secondsPerDay, nanosPerSecond] at hsecond hnano
    simp only [Time.hour, Time.minute, display, Time.secondOfMinute, nanosPerSecond]
    omega
  have htime := TimeText.seconds
    (.minutes (Quantity.hour.natural_write rfl (by decide) ht rfl)
      (Quantity.minute.natural_write rfl (by decide) ht rfl) hclock.1 hclock.2.1)
    (Quantity.second.natural_write rfl (by decide) ht rfl) hclock.2.2
  have hgap : Blanks [' '] := fun c hc => by rw [List.mem_singleton.1 hc]; decide
  rw [written_timestampItems, hday]
  refine .intro hdate hgap htime fun hone => ?_
  -- A day of two digits may be followed by anything.
  exact absurd (hlength.symm.trans hone) (by decide)

/-- The ends of what is written are digits or signs. -/
theorem trim_written (ht : t.Valid) : trim (Pattern.written t (Pattern.timestampItems true)) =
    Pattern.written t (Pattern.timestampItems true) := by
  obtain ⟨hsecond, -⟩ := Quantity.second.write_eq_padded rfl (by decide) ht rfl
  have hback : IsSolid (Quantity.second.write .zero t) := by
    rw [hsecond]
    exact ⟨Digits.padded_ne_nil _ _,
      fun c hc => isBlank_of_isDigit (Digits.isDigit_of_mem_padded hc)⟩
  have hends := (isSolid_writeYear t.date.year).trim_between hback
  rw [written_timestampItems]
  simpa only [List.append_assoc, List.cons_append, List.nil_append] using hends
    ('-' :: (Quantity.month.write .zero t ++ '-' :: (Quantity.day.write .zero t ++ ' ' ::
      (Quantity.hour.write .zero t ++ ':' :: (Quantity.minute.write .zero t ++ [':'])))))

/-- Every timestamp can be written in the application's pattern. -/
theorem write?_application (t : Timestamp) : Pattern.write? applicationPattern t =
    some (String.ofList (Pattern.written t (Pattern.timestampItems true))) := by
  have hitems : Pattern.items applicationPattern = Pattern.timestampItems true := rfl
  rw [Pattern.write?, hitems, Pattern.writeItems?_eq_written (by decide) t]
  rfl

theorem applicationText_eq (t : Timestamp) :
    t.applicationText = String.ofList (Pattern.written t (Pattern.timestampItems true)) := by
  rw [applicationText, write?_application]
  rfl

/-- A timestamp is put together again from what is shown of it, less the part below the second. -/
theorem truncate_eq (ht : t.Valid) : t.truncate = ⟨t.date, .ofClock t.display.hour
    t.display.minute t.display.second 0⟩ := by
  have htime := time_display (valid_truncate ht).2
  rw [display_truncate ht.2] at htime
  exact congrArg (Timestamp.mk t.date) htime.symm

/-- What is written of a timestamp is read as that timestamp, less the part below the second. -/
theorem timestamp?_written (ht : t.Valid) :
    Pattern.timestamp? applicationPattern (Pattern.written t (Pattern.timestampItems true)) =
      some t.truncate :=
  (Pattern.timestamp?_eq_some_iff rfl).2
    ⟨t.date, _, _, _, timestampText_written ht, ht.1, truncate_eq ht⟩

end Timestamp

/-! ### Formats that write in the application's pattern -/

namespace Formats

variable {formats : Formats}

/-- The first pattern is the one that writes, and the first that is tried. -/
theorem parse_applicationText (hfirst : formats.dateTime.head? = some applicationPattern)
    (ht : t.Valid) (reference : Timestamp) :
    formats.parse t.applicationText reference = .ok t.truncate := by
  obtain ⟨more, hmore⟩ := List.head?_eq_some_iff.1 hfirst
  have hne : Pattern.written t (Pattern.timestampItems true) ≠ [] :=
    List.ne_nil_of_mem (Timestamp.timestampText_written ht).hyphen_mem
  rw [parse_eq_ok_iff, Timestamp.applicationText_eq, String.toList_ofList,
    Timestamp.trim_written ht]
  refine ⟨hne, ?_⟩
  unfold find?
  rw [hmore, List.findSome?_cons, Timestamp.timestamp?_written ht]
  rfl

theorem write?_eq_applicationText (hfirst : formats.dateTime.head? = some applicationPattern)
    (t : Timestamp) : formats.write? t = some t.applicationText := by
  obtain ⟨more, hmore⟩ := List.head?_eq_some_iff.1 hfirst
  have hprimary : formats.primary = applicationPattern := by rw [primary, hmore]; rfl
  rw [write?, hprimary, Timestamp.applicationText_eq]
  exact Timestamp.write?_application t

end Formats

/-! ### Windows -/

/-- Both ends of a window are well-formed. -/
def Window.Valid (window : Window) : Prop := window.start.Valid ∧ window.stop.Valid

instance (window : Window) : Decidable window.Valid :=
  inferInstanceAs (Decidable (_ ∧ _))

theorem Timestamp.slash_not_mem_applicationText (ht : t.Valid) :
    '/' ∉ t.applicationText.toList := by
  rw [applicationText_eq, String.toList_ofList]
  exact List.count_eq_zero.1
    ((timestampText_written ht).count_eq_zero (by decide) (by decide) (by decide))

namespace Window

variable {window : Window}

theorem toList_text (window : Window) : window.text.toList =
    window.start.applicationText.toList ++ '/' :: window.stop.applicationText.toList := by
  unfold text
  rw [String.toList_append, String.toList_append, List.append_assoc]
  rfl

/-- The slash between the ends of a window is the only one. -/
theorem count_slash_text (h : window.Valid) : window.text.toList.count '/' = 1 := by
  rw [toList_text, List.count_append, List.count_cons_self,
    List.count_eq_zero.2 (Timestamp.slash_not_mem_applicationText h.1),
    List.count_eq_zero.2 (Timestamp.slash_not_mem_applicationText h.2)]

/-- The text of a window has only one division at a slash. -/
theorem text_eq_iff (h : window.Valid) {start stop : String} : window.text = start ++ "/" ++ stop ↔
    start = window.start.applicationText ∧ stop = window.stop.applicationText := by
  have hstart := Timestamp.slash_not_mem_applicationText h.1
  have hstop := Timestamp.slash_not_mem_applicationText h.2
  have hdivided : (start ++ "/" ++ stop).toList = start.toList ++ '/' :: stop.toList := by
    rw [String.toList_append, String.toList_append, List.append_assoc]
    rfl
  rw [← String.toList_inj, toList_text, hdivided, List.append_cons_inj_of_notMem hstart hstop,
    String.toList_inj, String.toList_inj]
  exact ⟨fun heq => ⟨heq.1.symm, heq.2.2.symm⟩, fun heq => ⟨heq.1.symm, rfl, heq.2.symm⟩⟩

end Window

namespace Formats

/-- **The application's pattern loses nothing but the part below the second.** If formats have it as
their first pattern for timestamps, what they write of a timestamp they read as this timestamp,
truncated, whatever their other patterns and whatever the reference. The text of a window divides at
its only slash into two texts that are read as its ends, truncated, so that windows with the same
text agree to the second. -/
theorem parse_write_application {formats : Formats}
    (hfirst : formats.dateTime.head? = some applicationPattern) (reference : Timestamp) :
    (∀ t : Timestamp, t.Valid → ∃ text, formats.write? t = some text ∧
      formats.parse text reference = .ok t.truncate) ∧
    (∀ window : Window, window.Valid → window.text.toList.count '/' = 1 ∧
      ∀ start stop : String, window.text = start ++ "/" ++ stop →
        formats.parse start reference = .ok window.start.truncate ∧
          formats.parse stop reference = .ok window.stop.truncate) ∧
    (∀ window other : Window, window.Valid → other.Valid → window.text = other.text →
      window.start.truncate = other.start.truncate ∧
        window.stop.truncate = other.stop.truncate) := by
  refine ⟨fun t ht => ?_, fun window hwindow => ⟨Window.count_slash_text hwindow, ?_⟩, ?_⟩
  · exact ⟨_, write?_eq_applicationText hfirst t, parse_applicationText hfirst ht reference⟩
  · intro start stop htext
    obtain ⟨rfl, rfl⟩ := (Window.text_eq_iff hwindow).1 htext
    exact ⟨parse_applicationText hfirst hwindow.1 reference,
      parse_applicationText hfirst hwindow.2 reference⟩
  · intro window other hwindow hother htext
    obtain ⟨hstart, hstop⟩ := (Window.text_eq_iff hwindow).1 (htext.trans rfl)
    -- The same texts are read as the ends of either window.
    have hfrom := parse_applicationText hfirst hwindow.1 reference
    have hto := parse_applicationText hfirst hwindow.2 reference
    rw [← hstart, parse_applicationText hfirst hother.1 reference] at hfrom
    rw [← hstop, parse_applicationText hfirst hother.2 reference] at hto
    exact ⟨(Except.ok.inj hfrom).symm, (Except.ok.inj hto).symm⟩

/-- At the end of the first year of the calendar, in the middle of a leap second, with other
patterns that cannot be read or written. -/
theorem parse_write_application_firstYear :
    let formats : Formats := ⟨[applicationPattern, "%Q", "%"], ["%d"], ["%H"]⟩
    let t : Timestamp := ⟨⟨-262143, 12, 31⟩, ⟨86399, 1500000000⟩⟩
    let window : Window := ⟨t, ⟨⟨12345, 1, 1⟩, ⟨0, 1⟩⟩⟩
    formats.dateTime.head? = some applicationPattern ∧ t.Valid ∧ window.Valid ∧
      (∃ text, formats.write? t = some text ∧
        formats.parse text default = .ok ⟨⟨-262143, 12, 31⟩, ⟨86399, 1000000000⟩⟩) ∧
      window.text = "-262143-12-31 23:59:60" ++ "/" ++ "+12345-01-01 00:00:00" ∧
      formats.parse "+12345-01-01 00:00:00" default = .ok ⟨⟨12345, 1, 1⟩, ⟨0, 0⟩⟩ := by
  intro formats t window
  have hfirst : formats.dateTime.head? = some applicationPattern := rfl
  have ht : t.Valid := by decide
  have hwindow : window.Valid := by decide
  have htext : window.text = "-262143-12-31 23:59:60" ++ "/" ++ "+12345-01-01 00:00:00" := by
    decide +kernel
  have hlaw := parse_write_application hfirst default
  exact ⟨hfirst, ht, hwindow, hlaw.1 t ht, htext, ((hlaw.2.1 window hwindow).2 _ _ htext).2⟩

end Formats

end QueryWindow
