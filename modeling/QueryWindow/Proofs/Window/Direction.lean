import QueryWindow.Proofs.Calendar.Elapsed
import QueryWindow.Proofs.Candidate.Verdict

/-!
# QueryWindow.Proofs.Window.Direction

**Which way time passes through a window.** The order of timestamps compares what is written; the
time between them is a difference of days plus a difference of times of day, in which leap seconds
are corrected for (`Timestamp.leapCorrection_cases`). Within a day the correction makes both agree.
Across midnight it is not made: the time of day falls back to 00:00:00, which is no later second than
that of the leap second before it.

So both agree on all pairs but those of `Timestamp.MidnightLeap`. There the stop is later and yet no
time passes, or less than none.
-/

namespace QueryWindow

namespace Timestamp

variable {start stop : Timestamp}

/-! ### Leap seconds in a difference -/

/-- What the correction amounts to. -/
theorem leapCorrection_cases (start stop : Time) :
    (start.second < stop.second ∧
      (start.nano < nanosPerSecond ∧ leapCorrection start stop = 0 ∨
        nanosPerSecond ≤ start.nano ∧ leapCorrection start stop = 1)) ∨
    (start.second = stop.second ∧ leapCorrection start stop = 0) ∨
    (stop.second < start.second ∧
      (stop.nano < nanosPerSecond ∧ leapCorrection start stop = 0 ∨
        nanosPerSecond ≤ stop.nano ∧ leapCorrection start stop = -1)) := by
  unfold leapCorrection Time.isLeap
  rcases Nat.lt_trichotomy start.second stop.second with h | h | h
  · rw [if_pos h]
    by_cases hleap : nanosPerSecond ≤ start.nano
    · exact Or.inl ⟨h, Or.inr ⟨hleap, by rw [if_pos (decide_eq_true hleap)]⟩⟩
    · exact Or.inl ⟨h, Or.inl ⟨Nat.lt_of_not_le hleap, by simp [hleap]⟩⟩
  · exact Or.inr (Or.inl ⟨h, by simp [h]⟩)
  · rw [if_neg (Nat.lt_asymm h), if_pos h]
    by_cases hleap : nanosPerSecond ≤ stop.nano
    · exact Or.inr (Or.inr ⟨h, Or.inr ⟨hleap, by rw [if_pos (decide_eq_true hleap)]⟩⟩)
    · exact Or.inr (Or.inr ⟨h, Or.inl ⟨Nat.lt_of_not_le hleap, by simp [hleap]⟩⟩)

theorem leapCorrection_swap (start stop : Time) :
    leapCorrection stop start = -leapCorrection start stop := by
  have hto := leapCorrection_cases start stop
  have hback := leapCorrection_cases stop start
  omega

/-- **The way back takes as long, with the other sign.** -/
theorem elapsed_swap (start stop : Timestamp) : stop.elapsed start = -start.elapsed stop := by
  unfold elapsed
  rw [leapCorrection_swap start.time stop.time]
  simp only [nanosPerSecond]
  omega

theorem elapsed_self (t : Timestamp) : t.elapsed t = 0 := by
  have := elapsed_swap t t
  omega

/-! ### Leap seconds before midnight -/

/-- The start is in a leap second before midnight, and the stop is after midnight, no further into
its second than the start is into the leap second. -/
def MidnightLeap (start stop : Timestamp) : Prop :=
  start.daysUntil stop = 1 ∧ start.time.second = secondsPerDay - 1 ∧ stop.time.second = 0 ∧
    stop.time.nano + nanosPerSecond ≤ start.time.nano

instance (start stop : Timestamp) : Decidable (MidnightLeap start stop) :=
  inferInstanceAs (Decidable (_ ∧ _))

/-- The time is what the stop is into its second, less what the start is into the leap second. -/
theorem MidnightLeap.elapsed_eq (h : MidnightLeap start stop) (hvstart : start.Valid) :
    start.elapsed stop = stop.time.nano + nanosPerSecond - start.time.nano := by
  obtain ⟨hday, hstart, hstop, hnano⟩ := h
  obtain ⟨-, -, hn, -⟩ := hvstart
  have hcorrection := leapCorrection_cases start.time stop.time
  simp only [Timestamp.daysUntil, Date.daysUntil] at hday
  simp only [elapsed, instant, nanosPerDay, secondsPerDay, nanosPerSecond] at *
  omega

theorem MidnightLeap.lt (h : MidnightLeap start stop) (hvstart : start.date.Valid)
    (hvstop : stop.date.Valid) : start < stop := by
  have hday : start.daysUntil stop = 1 := h.1
  refine Or.inl ((Date.daysUntil_pos_iff hvstart hvstop).1 ?_)
  rw [← Timestamp.daysUntil, hday]
  exact Int.one_pos

/-- **Time passes from a timestamp to any later one**, leap seconds before midnight apart. -/
theorem elapsed_pos (hvstart : start.Valid) (hvstop : stop.Valid) (h : start < stop)
    (hleap : ¬ MidnightLeap start stop) : 0 < start.elapsed stop := by
  have hcorrection := leapCorrection_cases start.time stop.time
  rw [lt_def, ← Date.dayNumber_lt_iff hvstart.1 hvstop.1,
    ← Date.dayNumber_inj hvstart.1 hvstop.1, Time.lt_def] at h
  obtain ⟨-, hs, hn, -⟩ := hvstart
  obtain ⟨-, hs', hn', hend⟩ := hvstop
  simp only [MidnightLeap, Timestamp.daysUntil, Date.daysUntil] at hleap
  simp only [elapsed, instant, nanosPerDay, secondsPerDay, nanosPerSecond] at *
  omega

theorem elapsed_pos_iff_of_lt (hvstart : start.Valid) (hvstop : stop.Valid) (h : start < stop) :
    0 < start.elapsed stop ↔ ¬ MidnightLeap start stop := by
  refine ⟨fun hpos hleap => ?_, elapsed_pos hvstart hvstop h⟩
  have heq := hleap.elapsed_eq hvstart
  have hnano : stop.time.nano + nanosPerSecond ≤ start.time.nano := hleap.2.2.2
  omega

end Timestamp

namespace Window

/-- **Time passes through a window from its start to its stop**, if leap seconds before midnight are
left out, and the other way round through the reversed window. From within such a leap second to
as early after midnight, the stop is later and no time passes, or less than none. All windows
that a check accepts are of one kind or the other. -/
theorem elapsed_direction {start stop : Timestamp} (hstart : start.Valid) (hstop : stop.Valid) :
    let window : Window := ⟨start, stop⟩
    (Window.mk stop start).elapsed = -window.elapsed ∧
    (¬ start.MidnightLeap stop → ¬ stop.MidnightLeap start →
      (0 < window.elapsed ↔ start < stop) ∧ (window.elapsed = 0 ↔ start = stop) ∧
        (window.elapsed < 0 ↔ stop < start)) ∧
    (start.MidnightLeap stop → start < stop ∧ window.elapsed ≤ 0 ∧
      window.elapsed = stop.time.nano + nanosPerSecond - start.time.nano) ∧
    (∀ (candidate : Candidate) (limit : Int), candidate.check limit = .ok window →
      (0 < window.elapsed ↔ ¬ start.MidnightLeap stop)) := by
  intro window
  have hswap : stop.elapsed start = -start.elapsed stop := start.elapsed_swap stop
  refine ⟨hswap, fun hleap hleap' => ?_, fun hleap => ?_, fun candidate limit hcheck => ?_⟩
  · have hto : start < stop → 0 < window.elapsed :=
      fun hlt => Timestamp.elapsed_pos hstart hstop hlt hleap
    have hself : start = stop → window.elapsed = 0 := by
      rintro rfl
      exact Timestamp.elapsed_self start
    have hback : stop < start → window.elapsed < 0 := by
      intro hlt
      have hpos := Timestamp.elapsed_pos hstop hstart hlt hleap'
      rw [hswap] at hpos
      exact Int.neg_pos.1 hpos
    have horder := Timestamp.lt_trichotomy start stop
    refine ⟨⟨fun h => ?_, hto⟩, ⟨fun h => ?_, hself⟩, ⟨fun h => ?_, hback⟩⟩
    all_goals grind
  · have heq := hleap.elapsed_eq hstart
    have hnano : stop.time.nano + nanosPerSecond ≤ start.time.nano := hleap.2.2.2
    refine ⟨hleap.lt hstart.1 hstop.1, ?_, heq⟩
    show start.elapsed stop ≤ 0
    omega
  · exact Timestamp.elapsed_pos_iff_of_lt hstart hstop (Candidate.check_eq_ok_iff.1 hcheck).2.1

/-- Through a leap second of the morning and some of the minute after it, 850 milliseconds pass. From
a tenth of a second into a leap second before midnight to as early in the next year, none do. -/
theorem elapsed_direction_leapSecond :
    let leap : Timestamp := ⟨⟨2024, 1, 1⟩, ⟨36059, 1250000000⟩⟩
    let after : Timestamp := ⟨⟨2024, 1, 1⟩, ⟨36060, 100000000⟩⟩
    let eve : Timestamp := ⟨⟨2016, 12, 31⟩, ⟨86399, 1100000000⟩⟩
    let newYear : Timestamp := ⟨⟨2017, 1, 1⟩, ⟨0, 100000000⟩⟩
    (leap.Valid ∧ after.Valid ∧ ¬ leap.MidnightLeap after ∧ ¬ after.MidnightLeap leap ∧
      0 < (Window.mk leap after).elapsed ∧ (Window.mk after leap).elapsed < 0) ∧
    (eve.Valid ∧ newYear.Valid ∧ eve.MidnightLeap newYear ∧
      (Candidate.ofWindow ⟨eve, newYear⟩).check 2 = .ok ⟨eve, newYear⟩ ∧
      eve < newYear ∧ (Window.mk eve newYear).elapsed = 0 ∧
      ¬ 0 < (Window.mk eve newYear).elapsed) := by
  intro leap after eve newYear
  have hleap : leap.Valid := by decide
  have hafter : after.Valid := by decide
  have heve : eve.Valid := by decide
  have hnewYear : newYear.Valid := by decide
  have hto : ¬ leap.MidnightLeap after := by decide
  have hback : ¬ after.MidnightLeap leap := by decide
  have hmidnight : eve.MidnightLeap newYear := by decide
  have hcheck : (Candidate.ofWindow ⟨eve, newYear⟩).check 2 = .ok ⟨eve, newYear⟩ := by decide
  obtain ⟨hswap, hsign, -, -⟩ := elapsed_direction hleap hafter
  obtain ⟨-, -, hlost, hkept⟩ := elapsed_direction heve hnewYear
  obtain ⟨hlt, -, helapsed⟩ := hlost hmidnight
  have hpos : 0 < (Window.mk leap after).elapsed := (hsign hto hback).1.2 (by decide)
  refine ⟨⟨hleap, hafter, hto, hback, hpos, ?_⟩, heve, hnewYear, hmidnight, hcheck, hlt,
    helapsed.trans (by decide), fun h => (hkept _ 2 hcheck).1 h hmidnight⟩
  rw [hswap]
  exact Int.neg_neg_of_pos hpos

/-- A window that is accepted, and through which time passes backwards for half a second. -/
theorem elapsed_neg_of_accepted :
    let start : Timestamp := ⟨⟨2016, 12, 31⟩, ⟨86399, 1500000000⟩⟩
    let stop : Timestamp := ⟨⟨2017, 1, 1⟩, ⟨0, 0⟩⟩
    start.Valid ∧ stop.Valid ∧ start < stop ∧
      (Candidate.ofWindow ⟨start, stop⟩).check maxDaySpan = .ok ⟨start, stop⟩ ∧
      (Window.mk start stop).elapsed = -500000000 ∧
      (Window.mk stop start).elapsed = 500000000 := by
  decide

end Window

end QueryWindow
