import QueryWindow.Proofs.Calendar.Instant
import QueryWindow.Window

/-!
# QueryWindow.Proofs.Calendar.Elapsed

**Time that passes, against dates and order.** Outside leap seconds the time from one timestamp to
another is the difference of their instants (`Timestamp.elapsed_eq`), and its sign says which of
them is earlier (`Timestamp.elapsed_pos_iff`). From the days between the dates it differs by less
than one day, upwards exactly if the time of day is later at the end
(`Timestamp.days_lt_elapsed_iff`).

Going back obeys one law, in leap seconds too: two steps back are one step by both amounts
(`Timestamp.back?_add`).
-/

namespace QueryWindow

theorem Time.isLeap_eq_false_iff {time : Time} :
    time.isLeap = false ↔ time.nano < nanosPerSecond := by
  simp [isLeap]

namespace Timestamp

/-- A timestamp is another one or before it. -/
instance : LE Timestamp where
  le a b := a = b ∨ a < b

theorem le_def (a b : Timestamp) : a ≤ b ↔ a = b ∨ a < b := Iff.rfl

variable {start stop : Timestamp}

/-! ### Days -/

/-- From an earlier timestamp to a later one the days are counted forwards. -/
theorem daysUntil_nonneg (hstart : start.date.Valid) (hstop : stop.date.Valid)
    (h : start < stop) : 0 ≤ start.daysUntil stop := by
  have := dayNumber_le_of_lt hstart hstop h
  unfold Timestamp.daysUntil Date.daysUntil
  omega

theorem natAbs_daysUntil (hstart : start.date.Valid) (hstop : stop.date.Valid)
    (h : start < stop) : ((start.daysUntil stop).natAbs : Int) = start.daysUntil stop :=
  Int.natAbs_of_nonneg (daysUntil_nonneg hstart hstop h)

theorem natAbs_daysUntil_comm (a b : Timestamp) :
    (a.daysUntil b).natAbs = (b.daysUntil a).natAbs := by
  unfold Timestamp.daysUntil
  rw [← Date.daysUntil_neg a.date b.date, Int.natAbs_neg]

/-! ### Outside leap seconds -/

section NoLeap

variable (hstart : start.time.isLeap = false) (hstop : stop.time.isLeap = false)
include hstart hstop

theorem elapsed_eq : start.elapsed stop = stop.instant - start.instant := by
  simp [elapsed, leapCorrection, hstart, hstop]

/-- Time passes from one timestamp to another exactly if the first is earlier. -/
theorem elapsed_pos_iff (hvstart : start.Valid) (hvstop : stop.Valid) :
    0 < start.elapsed stop ↔ start < stop := by
  rw [elapsed_eq hstart hstop, lt_def, ← Date.dayNumber_lt_iff hvstart.1 hvstop.1,
    ← Date.dayNumber_inj hvstart.1 hvstop.1, Time.lt_def]
  rw [Time.isLeap_eq_false_iff] at hstart hstop
  obtain ⟨-, hs, -, -⟩ := hvstart
  obtain ⟨-, hs', -, -⟩ := hvstop
  simp only [instant, nanosPerDay, secondsPerDay, nanosPerSecond] at hs hs' hstart hstop ⊢
  omega

/-- The time that passes is less than one day away from the days between the dates. -/
theorem elapsed_bounds (hvstart : start.Valid) (hvstop : stop.Valid) :
    (start.daysUntil stop - 1) * nanosPerDay < start.elapsed stop ∧
      start.elapsed stop < (start.daysUntil stop + 1) * nanosPerDay := by
  rw [elapsed_eq hstart hstop]
  rw [Time.isLeap_eq_false_iff] at hstart hstop
  obtain ⟨-, hs, -, -⟩ := hvstart
  obtain ⟨-, hs', -, -⟩ := hvstop
  simp only [Timestamp.daysUntil, Date.daysUntil, instant, nanosPerDay, secondsPerDay,
    nanosPerSecond] at hs hs' hstart hstop ⊢
  omega

/-- It is more than these days exactly if the time of day is later at the end. -/
theorem days_lt_elapsed_iff :
    start.daysUntil stop * nanosPerDay < start.elapsed stop ↔ start.time < stop.time := by
  rw [elapsed_eq hstart hstop, Time.lt_def]
  rw [Time.isLeap_eq_false_iff] at hstart hstop
  simp only [Timestamp.daysUntil, Date.daysUntil, instant, nanosPerDay, secondsPerDay,
    nanosPerSecond] at hstart hstop ⊢
  omega

/-! What the time that passes says about the days, from either side of a number of days. -/

theorem daysUntil_le_of_elapsed_le (hvstart : start.Valid) (hvstop : stop.Valid) {days : Int}
    (h : start.elapsed stop ≤ days * nanosPerDay) : start.daysUntil stop ≤ days := by
  have := (elapsed_bounds hstart hstop hvstart hvstop).1
  simp only [nanosPerDay, secondsPerDay, nanosPerSecond] at this h
  omega

theorem lt_daysUntil_of_le_elapsed (hvstart : start.Valid) (hvstop : stop.Valid) {days : Int}
    (h : (days + 1) * nanosPerDay ≤ start.elapsed stop) : days < start.daysUntil stop := by
  have := (elapsed_bounds hstart hstop hvstart hvstop).2
  simp only [nanosPerDay, secondsPerDay, nanosPerSecond] at this h
  omega

/-- Between one number of days and the next, the times of day decide. -/
theorem daysUntil_le_iff_of_between {days : Int} (hmore : days * nanosPerDay < start.elapsed stop)
    (hless : start.elapsed stop < (days + 1) * nanosPerDay) :
    start.daysUntil stop ≤ days ↔ start.time < stop.time := by
  rw [← days_lt_elapsed_iff hstart hstop]
  simp only [nanosPerDay, secondsPerDay, nanosPerSecond] at hmore hless ⊢
  omega

end NoLeap

/-- Timestamps outside leap seconds are known by their instants. -/
theorem eq_of_instant_eq {a b : Timestamp} (ha : a.Valid) (hb : b.Valid)
    (hla : a.time.isLeap = false) (hlb : b.time.isLeap = false) (h : a.instant = b.instant) :
    a = b := by
  have hfound := ofInstant?_eq_some_iff.2 ⟨ha, Time.isLeap_eq_false_iff.1 hla, h⟩
  rw [ofInstant?_eq_some_iff.2 ⟨hb, Time.isLeap_eq_false_iff.1 hlb, rfl⟩] at hfound
  exact (Option.some.inj hfound).symm

/-! ### Going back -/

/-- **Two steps back are one.** -/
theorem back?_add {t u : Timestamp} {nanos : Nat} (h : t.back? nanos = some u) (more : Nat) :
    t.back? (nanos + more) = u.back? more := by
  rcases back?_cases h with ⟨hleap, hfit, rfl⟩ | ⟨hleave, -, hul, hi⟩
  · -- Still in the leap second; the second step may leave it, and so then does the one step.
    by_cases hstays : nanos + more ≤ t.time.nano - nanosPerSecond
    · rw [back?_of_stays hleap hstays, back?_of_stays (by dsimp only; omega)
        (by dsimp only; omega)]
      simp only [Option.some.injEq, mk.injEq, Time.mk.injEq, true_and]
      omega
    · rw [back?_of_leaves fun _ => Nat.lt_of_not_le hstays,
        back?_of_leaves fun _ => by dsimp only; omega]
      congr 1
      simp only [instant]
      omega
  · rw [back?_of_leaves fun hleap => Nat.lt_add_right more (hleave hleap),
      back?_of_leaves fun hleap => absurd hul (Nat.not_lt_of_le hleap), hi]
    congr 1
    omega

/-- From where there is no way back, there is none further back either. -/
theorem back?_add_eq_none {t : Timestamp} {nanos : Nat} (ht : t.Representable)
    (h : t.back? nanos = none) (more : Nat) : t.back? (nanos + more) = none := by
  rw [back?_eq_none_iff ht] at h ⊢
  omega

end Timestamp

end QueryWindow
