import QueryWindow.Proofs.Calendar.Elapsed
import QueryWindow.Proofs.Candidate.Verdict

/-!
# QueryWindow.Proofs.Candidate.Agreement

**A check, the predicates, greater limits and reversed ends.** The predicates take the distance of
the ends before anything is known about their order, the check only after it. They agree because
what a check accepts is the candidate of a window, and for that one the distance is the same in both
(`Candidate.isValidWithinLimit_iff`).

A greater limit accepts all that a smaller one does. Of a candidate and its reverse at most one is
accepted, since both are equally long and only one can be in order.
-/

namespace QueryWindow

namespace Candidate

variable {candidate : Candidate} {window : Window} {limit : Int}

/-- The candidate with its ends the other way round. -/
def swap (candidate : Candidate) : Candidate := ⟨candidate.stop, candidate.start⟩

/-- The timestamps that were read are on dates of the calendar. -/
def Dated (candidate : Candidate) : Prop :=
  (∀ t, candidate.start = .valid t → t.date.Valid) ∧ (∀ t, candidate.stop = .valid t → t.date.Valid)

theorem eq_ofWindow_iff : candidate = ofWindow window ↔
    candidate.start = .valid window.start ∧ candidate.stop = .valid window.stop := by
  obtain ⟨start, stop⟩ := candidate
  simp only [ofWindow, mk.injEq]

/-! ### Days -/

/-- In order, the distance that is limited is the number of days forwards. -/
theorem check_eq_ok_iff_days (h : candidate.Dated) : candidate.check limit = .ok window ↔
    candidate.start = .valid window.start ∧ candidate.stop = .valid window.stop ∧
      window.start < window.stop ∧ window.start.daysUntil window.stop ≤ limit := by
  rw [check_eq_ok_iff, eq_ofWindow_iff, and_assoc]
  refine and_congr_right fun hstart => and_congr_right fun hstop => and_congr_right fun hlt => ?_
  rw [Timestamp.natAbs_daysUntil (h.1 _ hstart) (h.2 _ hstop) hlt]

/-- The days that a rejection speaks of are those between the ends, and more than the limit. -/
theorem days_of_spanExceeded (h : candidate.Dated) {days most : Int}
    (hcheck : candidate.check limit = .error (.spanExceeded days most)) :
    ∃ start stop, candidate = ⟨.valid start, .valid stop⟩ ∧ days = start.daysUntil stop ∧
      most = limit ∧ limit < days ∧ 0 ≤ days := by
  cases check_eq_error_iff.1 hcheck with
  | @span start stop hlt hspan =>
      have hdays := Timestamp.natAbs_daysUntil (h.1 _ rfl) (h.2 _ rfl) hlt
      exact ⟨start, stop, rfl, hdays, rfl, hspan, Int.natCast_nonneg _⟩

theorem isValidWithinLimit_eq_false {days : Nat} (h : candidate.daySpan? = some days)
    (hlong : 2 < days) : candidate.isValidWithinLimit = false := by
  have hnot : ¬ (days : Int) ≤ maxDaySpan := by
    simp only [maxDaySpan]
    omega
  rw [isValidWithinLimit_eq, h, Option.any_some, decide_eq_false hnot, isValid, Bool.and_false]

/-! ### Greater limits and reversed ends -/

theorem check_of_le {limit' : Int} (h : candidate.check limit = .ok window)
    (hle : limit ≤ limit') : candidate.check limit' = .ok window := by
  rw [check_eq_ok_iff_ordered] at h ⊢
  exact ⟨h.1, Int.le_trans h.2 hle⟩

theorem daySpan?_swap (candidate : Candidate) : candidate.swap.daySpan? = candidate.daySpan? := by
  obtain ⟨start, stop⟩ := candidate
  cases start with
  | invalid text => cases stop <;> rfl
  | valid start =>
      cases stop with
      | invalid text => rfl
      | valid stop => exact congrArg some (Timestamp.natAbs_daysUntil_comm stop start)

theorem swap_ofWindow (window : Window) :
    (ofWindow window).swap = ofWindow ⟨window.stop, window.start⟩ := rfl

/-- What is accepted is out of order the other way round. -/
theorem check_swap_ne_ok {limit' : Int} (h : candidate.check limit = .ok window) (other : Window) :
    candidate.swap.check limit' ≠ .ok other := by
  intro hswap
  obtain ⟨rfl, hlt, -⟩ := check_eq_ok_iff.1 h
  rw [swap_ofWindow, check_eq_ok_iff, ofWindow_inj] at hswap
  obtain ⟨rfl, hlt', -⟩ := hswap
  exact Timestamp.lt_asymm hlt hlt'

/-- **A check and the predicates agree.** A check accepts exactly the candidates that were read,
are in order and have no more days between them than the limit, and gives the window of the
candidate. Otherwise it names the first fault, and if that is the span, the days between the ends.
The predicates hold where the order, or the check with two days, accepts. A greater limit changes
nothing about what was accepted; with the ends the other way round, the distance is the same and
nothing that was accepted is accepted. -/
theorem check_agrees (h : candidate.Dated) (limit : Int) :
    (∀ window, candidate.check limit = .ok window ↔
      candidate.start = .valid window.start ∧ candidate.stop = .valid window.stop ∧
        window.start < window.stop ∧ window.start.daysUntil window.stop ≤ limit) ∧
    (∀ window, candidate.check limit = .ok window → ofWindow window = candidate) ∧
    (∀ reason, candidate.check limit = .error reason ↔ FirstFault limit candidate reason) ∧
    (∀ days most, candidate.check limit = .error (.spanExceeded days most) →
      ∃ start stop, candidate = ⟨.valid start, .valid stop⟩ ∧ days = start.daysUntil stop ∧
        most = limit ∧ limit < days ∧ 0 ≤ days) ∧
    (∀ condition, candidate.isValid condition = true ↔
      (∃ window, candidate.ordered = .ok window) ∧ condition = true) ∧
    (candidate.isValidWithinLimit = true ↔ ∃ window, candidate.check 2 = .ok window) ∧
    (∀ days, candidate.daySpan? = some days → 2 < days →
      candidate.isValidWithinLimit = false ∧ candidate.swap.isValidWithinLimit = false) ∧
    (∀ window limit', candidate.check limit = .ok window → limit ≤ limit' →
      candidate.check limit' = .ok window) ∧
    candidate.swap.daySpan? = candidate.daySpan? ∧
    (∀ window other limit', candidate.check limit = .ok window →
      candidate.swap.check limit' ≠ .ok other) := by
  refine ⟨fun _ => check_eq_ok_iff_days h, fun _ hcheck => (check_eq_ok_iff.1 hcheck).1.symm,
    fun _ => check_eq_error_iff, fun _ _ => days_of_spanExceeded h, fun _ => isValid_iff,
    isValidWithinLimit_iff, fun days hdays hlong => ?_, fun _ _ => check_of_le,
    daySpan?_swap candidate, fun _ other _ hcheck => check_swap_ne_ok hcheck other⟩
  have hswap := (daySpan?_swap candidate).trans hdays
  exact ⟨isValidWithinLimit_eq_false hdays hlong, isValidWithinLimit_eq_false hswap hlong⟩

/-- From two minutes before midnight on a leap day to two minutes after midnight three dates later:
too long by one day, whichever way round, and just short enough for a limit of three days. -/
theorem check_agrees_leapDay :
    let start : Timestamp := ⟨⟨2024, 2, 29⟩, ⟨86280, 0⟩⟩
    let stop : Timestamp := ⟨⟨2024, 3, 3⟩, ⟨120, 0⟩⟩
    let candidate : Candidate := ofWindow ⟨start, stop⟩
    candidate.Dated ∧ candidate.check 2 = .error (.spanExceeded 3 2) ∧
      candidate.swap.isValidWithinLimit = false ∧ candidate.check 3 = .ok ⟨start, stop⟩ ∧
      candidate.check 10 = .ok ⟨start, stop⟩ ∧ ∀ other, candidate.swap.check 10 ≠ .ok other := by
  intro start stop candidate
  have hdated : candidate.Dated :=
    ⟨fun t h => by cases h; decide, fun t h => by cases h; decide⟩
  obtain ⟨-, -, hfault, -, -, -, hlong, -⟩ := check_agrees hdated 2
  obtain ⟨haccepts, -, -, -, -, -, -, hgreater, -, hswap⟩ := check_agrees hdated 3
  have hdays : ((start.daysUntil stop).natAbs : Int) = 3 := by decide
  have hspan : FirstFault 2 candidate (.spanExceeded (start.daysUntil stop).natAbs 2) :=
    .span (by decide) (by decide)
  rw [hdays] at hspan
  have hthree : candidate.check 3 = .ok ⟨start, stop⟩ :=
    (haccepts ⟨start, stop⟩).2 ⟨rfl, rfl, by decide, by decide⟩
  exact ⟨hdated, (hfault _).2 hspan, (hlong 3 (by decide) (by decide)).2, hthree,
    hgreater _ 10 hthree (by decide), fun other => hswap _ other 10 hthree⟩

end Candidate

end QueryWindow
