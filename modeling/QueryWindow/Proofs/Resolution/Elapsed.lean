import QueryWindow.Proofs.Calendar.Elapsed
import QueryWindow.Proofs.Resolution.Outcomes

/-!
# QueryWindow.Proofs.Resolution.Elapsed

**What a limit on calendar days means in hours.** A window of so many times 24 hours is never too
long for a limit of so many days, and one of 24 hours more always is. Between the two it depends on
the times of day: the window fits if it stops at a later one than it starts
(`Candidate.check_elapsed`).

Leap seconds are left out, since there the order of timestamps and the time between them are not the
same thing.
-/

namespace QueryWindow

namespace Candidate

variable {start stop : Timestamp} {limit : Int}

/-- Once the ends are in order, the number of days decides. -/
theorem check_ofWindow_of_lt (hstart : start.date.Valid) (hstop : stop.date.Valid)
    (h : start < stop) (limit : Int) : (ofWindow ⟨start, stop⟩).check limit =
      if start.daysUntil stop ≤ limit then .ok ⟨start, stop⟩
      else .error (.spanExceeded (start.daysUntil stop) limit) := by
  rw [ofWindow, check_valid, if_pos h, Timestamp.natAbs_daysUntil hstart hstop h]

section NoLeap

variable (hstart : start.Valid) (hstop : stop.Valid) (hstartLeap : start.time.isLeap = false)
  (hstopLeap : stop.time.isLeap = false)
include hstart hstop hstartLeap hstopLeap

/-- A window of at most so many times 24 hours fits. -/
theorem check_of_elapsed_le (hpos : 0 < start.elapsed stop)
    (hle : start.elapsed stop ≤ limit * nanosPerDay) :
    (ofWindow ⟨start, stop⟩).check limit = .ok ⟨start, stop⟩ := by
  have hlt := (Timestamp.elapsed_pos_iff hstartLeap hstopLeap hstart hstop).1 hpos
  have hdays := Timestamp.daysUntil_le_of_elapsed_le hstartLeap hstopLeap hstart hstop hle
  rw [check_ofWindow_of_lt hstart.1 hstop.1 hlt, if_pos hdays]

/-- A window of 24 hours more does not. -/
theorem check_of_le_elapsed (hlimit : 0 ≤ limit)
    (hle : (limit + 1) * nanosPerDay ≤ start.elapsed stop) :
    (ofWindow ⟨start, stop⟩).check limit =
      .error (.spanExceeded (start.daysUntil stop) limit) := by
  have hpos : 0 < start.elapsed stop := by
    simp only [nanosPerDay, secondsPerDay, nanosPerSecond] at hle
    omega
  have hlt := (Timestamp.elapsed_pos_iff hstartLeap hstopLeap hstart hstop).1 hpos
  have hdays := Timestamp.lt_daysUntil_of_le_elapsed hstartLeap hstopLeap hstart hstop hle
  rw [check_ofWindow_of_lt hstart.1 hstop.1 hlt, if_neg (Int.not_le_of_gt hdays)]

/-- A window through which no time passes forwards is not in order. -/
theorem check_of_elapsed_nonpos (h : start.elapsed stop ≤ 0) :
    (ofWindow ⟨start, stop⟩).check limit = .error (.notOrdered start stop) := by
  have hnot : ¬ start < stop := fun hlt =>
    Int.not_lt_of_ge h ((Timestamp.elapsed_pos_iff hstartLeap hstopLeap hstart hstop).2 hlt)
  rw [ofWindow, check_valid, if_neg hnot]

/-- A window between the two lengths fits if the time of day is later at its end. -/
theorem check_of_between (hlimit : 0 ≤ limit) (hmore : limit * nanosPerDay < start.elapsed stop)
    (hless : start.elapsed stop < (limit + 1) * nanosPerDay) :
    (ofWindow ⟨start, stop⟩).check limit =
      if start.time < stop.time then .ok ⟨start, stop⟩
      else .error (.spanExceeded (start.daysUntil stop) limit) := by
  have hpos : 0 < start.elapsed stop := by
    simp only [nanosPerDay, secondsPerDay, nanosPerSecond] at hmore
    omega
  have hlt := (Timestamp.elapsed_pos_iff hstartLeap hstopLeap hstart hstop).1 hpos
  have hdays := Timestamp.daysUntil_le_iff_of_between hstartLeap hstopLeap hmore hless
  rw [check_ofWindow_of_lt hstart.1 hstop.1 hlt]
  simp only [hdays]

end NoLeap

/-- **Elapsed time against the limit.** Outside leap seconds, a check accepts a window in order if
it takes at most as many times 24 hours as the limit has days, rejects it for its span if it takes
24 hours more, and in between accepts it exactly if the time of day is later at its end. So of all
requests whose ends are in order, none of at most 48 hours is replaced, and all of 72 hours or more
are. -/
theorem check_elapsed (hstart : start.Valid) (hstop : stop.Valid)
    (hstartLeap : start.time.isLeap = false) (hstopLeap : stop.time.isLeap = false) :
    let window : Window := ⟨start, stop⟩
    window.elapsed = stop.instant - start.instant ∧
    (∀ limit : Int, 0 ≤ limit →
      (0 < window.elapsed → window.elapsed ≤ limit * nanosPerDay →
        (ofWindow window).check limit = .ok window) ∧
      ((limit + 1) * nanosPerDay ≤ window.elapsed →
        (ofWindow window).check limit =
          .error (.spanExceeded (start.daysUntil stop) limit)) ∧
      (window.elapsed ≤ 0 → (ofWindow window).check limit = .error (.notOrdered start stop)) ∧
      (limit * nanosPerDay < window.elapsed → window.elapsed < (limit + 1) * nanosPerDay →
        (ofWindow window).check limit =
          if start.time < stop.time then .ok window
          else .error (.spanExceeded (start.daysUntil stop) limit))) ∧
    (∀ (settings : Settings) (lookback : Lookback) (request : Request) (s : Surroundings),
      let now := s.clock s.clockReads
      let fallback := Window.lookingBack now lookback
      AmountsTo settings.formats now fallback.start request.start (.valid start) →
      AmountsTo settings.formats now fallback.stop request.stop (.valid stop) →
      (0 < window.elapsed → window.elapsed ≤ 2 * nanosPerDay →
        settings.Keeps lookback request s window) ∧
      (3 * nanosPerDay ≤ window.elapsed →
        settings.Replaces lookback request s (.spanExceeded (start.daysUntil stop) 2))) := by
  intro window
  refine ⟨Timestamp.elapsed_eq hstartLeap hstopLeap, fun limit hlimit => ⟨?_, ?_, ?_, ?_⟩,
    fun settings lookback request s ha hb => ⟨?_, ?_⟩⟩
  · exact check_of_elapsed_le hstart hstop hstartLeap hstopLeap
  · exact check_of_le_elapsed hstart hstop hstartLeap hstopLeap hlimit
  · exact check_of_elapsed_nonpos hstart hstop hstartLeap hstopLeap
  · exact check_of_between hstart hstop hstartLeap hstopLeap hlimit
  · intro hpos hle
    have hcheck := check_of_elapsed_le hstart hstop hstartLeap hstopLeap hpos hle
    exact Settings.keeps_of_fits ha hb (check_eq_ok_iff.1 hcheck).2
  · intro hle
    have hlimit : (0 : Int) ≤ 2 := by decide
    have hcheck := check_of_le_elapsed hstart hstop hstartLeap hstopLeap hlimit hle
    exact Settings.replaces_of_fault ha hb (check_eq_error_iff.1 hcheck)

/-- From an hour before the leap day of 2000: 47 hours later is soon enough, 48 hours and a half are
if it is later in the day by then, and 72 hours are too long. -/
theorem check_elapsed_leapDay :
    let start : Timestamp := ⟨⟨2000, 2, 28⟩, ⟨82800, 0⟩⟩
    let soon : Timestamp := ⟨⟨2000, 3, 1⟩, ⟨79200, 0⟩⟩
    let later : Timestamp := ⟨⟨2000, 3, 1⟩, ⟨84600, 0⟩⟩
    let late : Timestamp := ⟨⟨2000, 3, 2⟩, ⟨82800, 0⟩⟩
    let request (stop : Timestamp) : Request := ⟨some (.date start), some (.date stop)⟩
    (start.Valid ∧ soon.Valid ∧ later.Valid ∧ late.Valid) ∧
      (start.time.isLeap = false ∧ soon.time.isLeap = false ∧ later.time.isLeap = false ∧
        late.time.isLeap = false) ∧
      Settings.standard.Keeps ⟨1⟩ (request soon) (.fixed soon) ⟨start, soon⟩ ∧
      (ofWindow ⟨start, later⟩).check 2 = .ok ⟨start, later⟩ ∧
      Settings.standard.Replaces ⟨1⟩ (request late) (.fixed soon)
        (.spanExceeded (start.daysUntil late) 2) := by
  intro start soon later late request
  have hstart : start.Valid := by decide
  have hsoon := check_elapsed hstart (show soon.Valid by decide) rfl rfl
  have hlater := check_elapsed hstart (show later.Valid by decide) rfl rfl
  have hlate := check_elapsed hstart (show late.Valid by decide) rfl rfl
  have hkept := (hsoon.2.2 .standard ⟨1⟩ (request soon) (.fixed soon) (.date _) (.date _)).1
    (by decide) (by decide)
  have hbetween := (hlater.2.1 2 (by decide)).2.2.2 (by decide) (by decide)
  have hreplaced := (hlate.2.2 .standard ⟨1⟩ (request late) (.fixed soon) (.date _) (.date _)).2
    (by decide)
  exact ⟨by decide, by decide, hkept, hbetween, hreplaced⟩

end Candidate

end QueryWindow
