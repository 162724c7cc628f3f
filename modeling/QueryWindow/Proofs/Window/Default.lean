import QueryWindow.Proofs.Calendar.Elapsed
import QueryWindow.Proofs.Candidate.Verdict

/-!
# QueryWindow.Proofs.Window.Default

**The window that looks back from now.** It is never checked before it is used, so that its order
and length have to follow from how it is made. It is empty only if the lookback is, or if the
calendar starts now (`Window.start_lookingBack_lt_iff`); and a lookback of so many days reaches at
most so many dates back (`Window.daysUntil_lookingBack_le`), across midnights, leap seconds and the
first day of the calendar alike.
-/

namespace QueryWindow

/-- A window whose start is before its stop, by calendar days from none to the limit for requests,
which is two. -/
def Window.Sound (window : Window) : Prop :=
  window.start < window.stop ∧ 0 ≤ window.start.daysUntil window.stop ∧
    window.start.daysUntil window.stop ≤ maxDaySpan

instance (window : Window) : Decidable window.Sound :=
  inferInstanceAs (Decidable (_ ∧ _))

namespace Lookback

/-- The milliseconds of a day. -/
def millisPerDay : Nat := 86400000

theorem nanos_pos_iff (lookback : Lookback) : 0 < lookback.nanos ↔ 0 < lookback.millis.toNat := by
  simp only [nanos, longestMillis, signedWordLimit, nanosPerMilli]
  omega

theorem nanos_le_days {lookback : Lookback} {days : Nat}
    (h : lookback.millis.toNat ≤ days * millisPerDay) : lookback.nanos ≤ days * nanosPerDay := by
  simp only [nanos, longestMillis, signedWordLimit, nanosPerMilli, millisPerDay, nanosPerDay,
    secondsPerDay, nanosPerSecond] at h ⊢
  omega

end Lookback

namespace Window

variable {now : Timestamp}

/-- The default window starts where going back leads to, or else at the start of the calendar. -/
theorem lookingBack_cases (lookback : Lookback) (hv : now.Representable) :
    (∃ start, now.back? lookback.nanos = some start ∧ lookingBack now lookback = ⟨start, now⟩) ∨
      (now.instant - lookback.nanos < Timestamp.first.instant ∧
        lookingBack now lookback = ⟨Timestamp.first, now⟩) := by
  unfold lookingBack
  cases h : now.back? lookback.nanos with
  | some start => exact Or.inl ⟨start, rfl, rfl⟩
  | none => exact Or.inr ⟨(Timestamp.back?_eq_none_iff hv).1 h, rfl⟩

theorem representable_start_lookingBack (lookback : Lookback) (hv : now.Representable) :
    (lookingBack now lookback).start.Representable := by
  rcases lookingBack_cases lookback hv with ⟨start, hback, h⟩ | ⟨-, h⟩
  · rw [h]
    exact Timestamp.representable_of_back? hv hback
  · rw [h]
    exact Timestamp.first_valid.representable

theorem valid_start_lookingBack (lookback : Lookback) (hv : now.Valid) :
    (lookingBack now lookback).start.Valid := by
  rcases lookingBack_cases lookback hv.representable with ⟨start, hback, h⟩ | ⟨-, h⟩
  · rw [h]
    exact Timestamp.valid_of_back? hv hback
  · rw [h]
    exact Timestamp.first_valid

/-- With nothing to look back by, or at the start of the calendar, the default window is empty. -/
theorem lookingBack_empty {lookback : Lookback} (hv : now.Representable)
    (h : lookback.millis.toNat = 0 ∨ now = Timestamp.first) :
    lookingBack now lookback = ⟨now, now⟩ := by
  have hzero : lookback.nanos = 0 ∨ 0 < lookback.nanos := Nat.eq_zero_or_pos _
  rcases hzero with hzero | hpos
  · unfold lookingBack
    rw [hzero, Timestamp.back?_zero hv]
    rfl
  · obtain rfl : now = Timestamp.first := by
      have := (Lookback.nanos_pos_iff lookback).1 hpos
      rcases h with h | h
      · omega
      · exact h
    rcases lookingBack_cases lookback hv with ⟨start, hback, -⟩ | ⟨-, hw⟩
    · rcases Timestamp.first_le (Timestamp.representable_of_back? hv hback).1 with rfl | hfirst
      · exact absurd (Timestamp.back?_lt hv hpos hback) (Timestamp.lt_irrefl _)
      · exact absurd (Timestamp.back?_lt hv hpos hback) (Timestamp.lt_asymm hfirst)
    · exact hw

/-- The default window is in order exactly if there is something to look back by and to. -/
theorem start_lookingBack_lt_iff (lookback : Lookback) (hv : now.Representable) :
    (lookingBack now lookback).start < now ↔
      Timestamp.first < now ∧ 0 < lookback.millis.toNat := by
  constructor
  · intro hlt
    refine ⟨?_, Nat.pos_of_ne_zero fun hzero => ?_⟩
    · rcases Timestamp.first_le hv.1 with hfirst | hfirst
      · rw [lookingBack_empty hv (Or.inr hfirst)] at hlt
        exact absurd hlt (Timestamp.lt_irrefl _)
      · exact hfirst
    · rw [lookingBack_empty hv (Or.inl hzero)] at hlt
      exact absurd hlt (Timestamp.lt_irrefl _)
  · intro h
    obtain ⟨hfirst, hpos⟩ := h
    rcases lookingBack_cases lookback hv with ⟨start, hback, h⟩ | ⟨-, h⟩
    · rw [h]
      exact Timestamp.back?_lt hv ((Lookback.nanos_pos_iff lookback).2 hpos) hback
    · rw [h]
      exact hfirst

theorem daysUntil_lookingBack_le {lookback : Lookback} {days : Nat} (hv : now.Representable)
    (h : lookback.millis.toNat ≤ days * Lookback.millisPerDay) :
    (lookingBack now lookback).start.daysUntil now ≤ days := by
  have hnanos := Lookback.nanos_le_days h
  unfold Timestamp.daysUntil Date.daysUntil
  rcases lookingBack_cases lookback hv with ⟨start, hback, hw⟩ | ⟨hlow, hw⟩
  · have := Timestamp.dayNumber_le_of_back? hv hnanos hback
    rw [hw]
    show now.date.dayNumber - start.date.dayNumber ≤ days
    omega
  · -- The first instant is then less than so many days before now.
    have hnow := (Timestamp.instant_bounds hv).1
    rw [Timestamp.instant_first] at hlow
    rw [hw]
    show now.date.dayNumber - Date.first.dayNumber ≤ days
    simp only [nanosPerDay, secondsPerDay, nanosPerSecond] at hlow hnow hnanos
    omega

/-- A lookback from one millisecond to two days makes a window that may be used. -/
theorem sound_lookingBack {lookback : Lookback} (hv : now.Representable)
    (hfirst : Timestamp.first < now) (hpos : 0 < lookback.millis.toNat)
    (hle : lookback.millis.toNat ≤ 2 * Lookback.millisPerDay) :
    (lookingBack now lookback).Sound := by
  have hlt := (start_lookingBack_lt_iff lookback hv).2 ⟨hfirst, hpos⟩
  have hstart := representable_start_lookingBack lookback hv
  have hdays := Timestamp.daysUntil_nonneg hstart.1 hv.1 hlt
  exact ⟨hlt, hdays, daysUntil_lookingBack_le hv hle⟩

end Window

end QueryWindow
