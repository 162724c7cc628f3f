import QueryWindow.Formats
import QueryWindow.Proofs.Pattern.Telling
import QueryWindow.Proofs.Text.Trim

/-!
# QueryWindow.Proofs.Formats.Grammar

**The texts that are accepted unless other patterns are set**, and what they mean, without any
reader: a date, a time of day, or a date and a time with any blanks between them. `Grammar.Denotes`
is the relation of texts and timestamps; it is about texts that have been trimmed.

Blanks may stand in front of every number, and nowhere else but between date and time. That a day of
one digit must not run into the digits of the hour is a condition on the joint of date and time
(`Grammar.TimestampText`).
-/

namespace QueryWindow.Grammar

/-- Blanks, or nothing. -/
def Blanks (cs : List Char) : Prop := ∀ c ∈ cs, isBlank c = true

/-- One digit or more. -/
def IsDigits (cs : List Char) : Prop := cs ≠ [] ∧ ∀ c ∈ cs, c.isDigit = true

/-- A number without a sign, of at most so many digits. -/
inductive Natural (most : Nat) : List Char → Nat → Prop
  | intro {blanks digits : List Char} (hb : Blanks blanks) (hd : IsDigits digits)
      (hmost : digits.length ≤ most) : Natural most (blanks ++ digits) (Digits.value 10 digits)

/-- A year: up to four digits, or a sign and any number of digits. -/
inductive Year : List Char → Int → Prop
  | unsigned {cs : List Char} {n : Nat} (h : Natural 4 cs n) : Year cs n
  | positive {blanks digits : List Char} (hb : Blanks blanks) (hd : IsDigits digits) :
      Year (blanks ++ '+' :: digits) (Digits.value 10 digits)
  | negative {blanks digits : List Char} (hb : Blanks blanks) (hd : IsDigits digits) :
      Year (blanks ++ '-' :: digits) (-(Digits.value 10 digits : Int))

/-- Year, month and day between hyphens. The digits of the day are kept apart from all that stands
in front of them. -/
inductive DateText : List Char → List Char → Date → Prop
  | intro {y m blanks day : List Char} {year : Int} {month : Nat} (hy : Year y year)
      (hm : Natural 2 m month) (hb : Blanks blanks) (hd : IsDigits day) (hmost : day.length ≤ 2) :
      DateText (y ++ '-' :: (m ++ '-' :: blanks)) day ⟨year, month, Digits.value 10 day⟩

/-- Hour and minute, and maybe a second, between colons. -/
inductive TimeText : Bool → List Char → Nat → Nat → Nat → Prop
  | minutes {h m : List Char} {hour minute : Nat} (hh : Natural 2 h hour) (hm : Natural 2 m minute)
      (hhour : hour ≤ 23) (hminute : minute ≤ 59) :
      TimeText false (h ++ ':' :: m) hour minute 0
  | seconds {cs s : List Char} {hour minute second : Nat} (h : TimeText false cs hour minute 0)
      (hs : Natural 2 s second) (hsecond : second ≤ 60) :
      TimeText true (cs ++ ':' :: s) hour minute second

/-- A date, any blanks, and a time. A digit may directly follow the day only if the day has two. -/
inductive TimestampText (seconds : Bool) : List Char → Date → Nat → Nat → Nat → Prop
  | intro {front day gap clock : List Char} {date : Date} {hour minute second : Nat}
      (hdate : DateText front day date) (hgap : Blanks gap)
      (htime : TimeText seconds clock hour minute second)
      (hjoint : day.length = 1 → ∀ c ∈ (gap ++ clock).head?, c.isDigit = false) :
      TimestampText seconds (front ++ (day ++ (gap ++ clock))) date hour minute second

/-- **What a trimmed text means**: a date its midnight, a time that time on the date of the
reference, and both together the moment they name. The date must be one of the calendar. -/
inductive Denotes (reference : Timestamp) : List Char → Timestamp → Prop
  | date {front day : List Char} {date : Date} (h : DateText front day date) (hvalid : date.Valid) :
      Denotes reference (front ++ day) ⟨date, Time.midnight⟩
  | time {seconds : Bool} {cs : List Char} {hour minute second : Nat}
      (h : TimeText seconds cs hour minute second) :
      Denotes reference cs ⟨reference.date, .ofClock hour minute second 0⟩
  | timestamp {seconds : Bool} {cs : List Char} {date : Date} {hour minute second : Nat}
      (h : TimestampText seconds cs date hour minute second) (hvalid : date.Valid) :
      Denotes reference cs ⟨date, .ofClock hour minute second 0⟩

variable {cs : List Char}

/-! ### Blanks in front -/

theorem Natural.skipped {most n : Nat} (h : Natural most cs n) :
    Natural most (skipBlanks cs) n ∧ skipBlanks cs ≠ [] := by
  obtain @⟨blanks, digits, hb, hd, hmost⟩ := h
  have hsolid : IsSolid digits := ⟨hd.1, fun c hc => isBlank_of_isDigit (hd.2 c hc)⟩
  have hskip : skipBlanks (blanks ++ digits) = digits := by
    rw [skipBlanks_append hb]
    simpa using hsolid.skipBlanks_append []
  rw [hskip]
  exact ⟨@Natural.intro most [] digits (by simp [Blanks]) hd hmost, hd.1⟩

/-- The blanks in front of a time do not matter. -/
theorem TimeText.skipped {seconds : Bool} {hour minute second : Nat}
    (h : TimeText seconds cs hour minute second) :
    TimeText seconds (skipBlanks cs) hour minute second ∧ skipBlanks cs ≠ [] := by
  induction h with
  | @minutes h m _ _ hh hm hhour hminute =>
      obtain ⟨hh, hne⟩ := hh.skipped
      rw [skipBlanks_append_of_ne_nil hne]
      exact ⟨.minutes hh hm hhour hminute, by simp⟩
  | @seconds cs s _ _ _ _ hs hsecond ih =>
      obtain ⟨htime, hne⟩ := ih
      rw [skipBlanks_append_of_ne_nil hne]
      exact ⟨.seconds htime hs hsecond, by simp⟩

/-- A second that is not there is 0. -/
theorem TimeText.second_cases {seconds : Bool} {hour minute second : Nat}
    (h : TimeText seconds cs hour minute second) : seconds = true ∨ second = 0 := by
  cases h with
  | minutes => exact Or.inr rfl
  | seconds => exact Or.inl rfl

theorem TimestampText.second_cases {seconds : Bool} {date : Date} {hour minute second : Nat}
    (h : TimestampText seconds cs date hour minute second) : seconds = true ∨ second = 0 := by
  obtain ⟨-, -, htime, -⟩ := h
  exact htime.second_cases

/-! ### Telling the shapes apart -/

theorem count_eq_zero_of_blanks {c : Char} (hc : isBlank c = false) (h : Blanks cs) :
    cs.count c = 0 := by
  refine List.count_eq_zero.2 fun hmem => ?_
  rw [h c hmem] at hc
  cases hc

theorem count_eq_zero_of_isDigits {c : Char} (hc : c.isDigit = false) (h : IsDigits cs) :
    cs.count c = 0 := by
  refine List.count_eq_zero.2 fun hmem => ?_
  rw [h.2 c hmem] at hc
  cases hc

/-- A sign of punctuation is no part of a number. -/
theorem Natural.count_eq_zero {most n : Nat} {c : Char} (h : Natural most cs n)
    (hb : isBlank c = false) (hd : c.isDigit = false) : cs.count c = 0 := by
  obtain ⟨hblanks, hdigits, -⟩ := h
  rw [List.count_append, count_eq_zero_of_blanks hb hblanks, count_eq_zero_of_isDigits hd hdigits]

theorem Year.count_eq_zero {year : Int} {c : Char} (h : Year cs year) (hb : isBlank c = false)
    (hd : c.isDigit = false) (hsign : c ≠ '+' ∧ c ≠ '-') : cs.count c = 0 := by
  cases h with
  | unsigned h => exact h.count_eq_zero hb hd
  | positive hblanks hdigits =>
      rw [List.count_append, List.count_cons_of_ne hsign.1.symm, count_eq_zero_of_blanks hb hblanks,
        count_eq_zero_of_isDigits hd hdigits]
  | negative hblanks hdigits =>
      rw [List.count_append, List.count_cons_of_ne hsign.2.symm, count_eq_zero_of_blanks hb hblanks,
        count_eq_zero_of_isDigits hd hdigits]

theorem DateText.count_eq_zero {front day : List Char} {date : Date} {c : Char}
    (h : DateText front day date) (hb : isBlank c = false) (hd : c.isDigit = false)
    (hsign : c ≠ '+' ∧ c ≠ '-') : (front ++ day).count c = 0 := by
  obtain ⟨hy, hm, hblanks, hdigits, -⟩ := h
  simp [List.count_append, List.count_cons_of_ne hsign.2.symm, hy.count_eq_zero hb hd hsign,
    hm.count_eq_zero hb hd, count_eq_zero_of_blanks hb hblanks,
    count_eq_zero_of_isDigits hd hdigits]

theorem DateText.hyphen_mem {front day : List Char} {date : Date} (h : DateText front day date) :
    '-' ∈ front := by
  obtain ⟨-, -, -, -, -⟩ := h
  simp

theorem TimeText.count_colon {seconds : Bool} {hour minute second : Nat}
    (h : TimeText seconds cs hour minute second) : cs.count ':' = if seconds then 2 else 1 := by
  induction h with
  | minutes hh hm =>
      rw [List.count_append, List.count_cons, hh.count_eq_zero (by decide) (by decide),
        hm.count_eq_zero (by decide) (by decide)]
      rfl
  | seconds _ hs _ ih =>
      rw [List.count_append, List.count_cons, ih, hs.count_eq_zero (by decide) (by decide)]
      rfl

theorem TimeText.count_eq_zero {seconds : Bool} {hour minute second : Nat} {c : Char}
    (h : TimeText seconds cs hour minute second) (hb : isBlank c = false) (hd : c.isDigit = false)
    (hcolon : c ≠ ':') : cs.count c = 0 := by
  induction h with
  | minutes hh hm =>
      rw [List.count_append, List.count_cons_of_ne hcolon.symm, hh.count_eq_zero hb hd,
        hm.count_eq_zero hb hd]
  | seconds _ hs _ ih =>
      rw [List.count_append, List.count_cons_of_ne hcolon.symm, ih, hs.count_eq_zero hb hd]

theorem TimestampText.count_colon {seconds : Bool} {date : Date} {hour minute second : Nat}
    (h : TimestampText seconds cs date hour minute second) :
    cs.count ':' = if seconds then 2 else 1 := by
  obtain ⟨hdate, hgap, htime, -⟩ := h
  have hdate := hdate.count_eq_zero (by decide : isBlank ':' = false) (by decide) (by decide)
  have hgap := count_eq_zero_of_blanks (by decide : isBlank ':' = false) hgap
  have htime := htime.count_colon
  simp only [List.count_append] at hdate ⊢
  omega

theorem TimestampText.count_eq_zero {seconds : Bool} {date : Date} {hour minute second : Nat}
    {c : Char} (h : TimestampText seconds cs date hour minute second) (hb : isBlank c = false)
    (hd : c.isDigit = false) (hmark : (c ≠ '+' ∧ c ≠ '-') ∧ c ≠ ':') : cs.count c = 0 := by
  obtain ⟨hdate, hgap, htime, -⟩ := h
  have hdate := hdate.count_eq_zero hb hd hmark.1
  have hgap := count_eq_zero_of_blanks hb hgap
  have htime := htime.count_eq_zero hb hd hmark.2
  simp only [List.count_append] at hdate ⊢
  omega

theorem TimestampText.hyphen_mem {seconds : Bool} {date : Date} {hour minute second : Nat}
    (h : TimestampText seconds cs date hour minute second) : '-' ∈ cs := by
  obtain ⟨hdate, -, -, -⟩ := h
  exact List.mem_append_left _ hdate.hyphen_mem

/-- A text that means something has a hyphen or a colon. -/
theorem Denotes.ne_nil {reference t : Timestamp} (h : Denotes reference cs t) : cs ≠ [] := by
  intro hnil
  cases h with
  | @date front day date h hvalid =>
      have hmem := List.mem_append_left day h.hyphen_mem
      rw [hnil] at hmem
      cases hmem
  | @time seconds _ _ _ _ h =>
      have hcount := h.count_colon
      rw [hnil] at hcount
      cases seconds <;> cases hcount
  | timestamp h hvalid =>
      have hmem := h.hyphen_mem
      rw [hnil] at hmem
      cases hmem

end QueryWindow.Grammar
