import QueryWindow.Candidate
import QueryWindow.Proofs.Outcome

/-!
# QueryWindow.Proofs.Candidate.Verdict

**What a check decides, said without the check.** `Candidate.FirstFault` lists the four ways for a
candidate to fail, each with the condition that the ways before it do not apply; a candidate without
a fault is the candidate of a window whose ends stand in order and close enough. `Candidate.check`
accepts exactly the latter (`Candidate.check_eq_ok_iff`) and names exactly the former
(`Candidate.check_eq_error_iff`), so that nothing about a check needs its definition from here on.
-/

namespace QueryWindow

/-- A window whose start is before its stop, at most so many calendar days apart. -/
def Window.Fits (window : Window) (limit : Int) : Prop :=
  window.start < window.stop ∧ (window.start.daysUntil window.stop).natAbs ≤ limit

instance (window : Window) (limit : Int) : Decidable (window.Fits limit) :=
  inferInstanceAs (Decidable (_ ∧ _))

namespace Candidate

/-- The first thing that is wrong with a candidate. -/
inductive FirstFault (limit : Int) : Candidate → Rejection → Prop
  /-- The start could not be read, whatever the stop is. -/
  | start {text : String} {stop : Reading} :
      FirstFault limit ⟨.invalid text, stop⟩ (.invalidStart text)
  /-- The start was read, the stop could not be. -/
  | stop {start : Timestamp} {text : String} :
      FirstFault limit ⟨.valid start, .invalid text⟩ (.invalidStop text)
  /-- Both ends were read, and the start is not before the stop. -/
  | order {start stop : Timestamp} (h : ¬ start < stop) :
      FirstFault limit ⟨.valid start, .valid stop⟩ (.notOrdered start stop)
  /-- Both ends were read and stand in order, too many days apart. -/
  | span {start stop : Timestamp} (h : start < stop)
      (hspan : limit < (start.daysUntil stop).natAbs) :
      FirstFault limit ⟨.valid start, .valid stop⟩
        (.spanExceeded (start.daysUntil stop).natAbs limit)

theorem ofWindow_inj {window other : Window} : ofWindow window = ofWindow other ↔ window = other := by
  cases window
  cases other
  simp only [ofWindow, mk.injEq, Reading.valid.injEq, Window.mk.injEq]

theorem check_valid (start stop : Timestamp) (limit : Int) :
    check ⟨.valid start, .valid stop⟩ limit =
      if start < stop then
        if (start.daysUntil stop).natAbs ≤ limit then .ok ⟨start, stop⟩
        else .error (.spanExceeded (start.daysUntil stop).natAbs limit)
      else .error (.notOrdered start stop) := by
  simp only [check, ordered, Window.daySpan]
  by_cases h : start < stop
  · rw [if_pos h, if_pos h]
    rfl
  · rw [if_neg h, if_neg h]
    rfl

theorem ordered_valid (start stop : Timestamp) : ordered ⟨.valid start, .valid stop⟩ =
    if start < stop then .ok ⟨start, stop⟩ else .error (.notOrdered start stop) := rfl

/-- In order are exactly the candidates of windows that start before they stop. -/
theorem ordered_eq_ok_iff {candidate : Candidate} {window : Window} :
    candidate.ordered = .ok window ↔ candidate = ofWindow window ∧ window.start < window.stop := by
  obtain ⟨start, stop⟩ := candidate
  obtain ⟨a, b⟩ := window
  cases start with
  | invalid text => exact ⟨fun h => (by cases h), fun h => (by cases h.1)⟩
  | valid start =>
      cases stop with
      | invalid text => exact ⟨fun h => (by cases h), fun h => (by cases h.1)⟩
      | valid stop =>
          rw [ordered_valid]
          simp only [ofWindow, mk.injEq, Reading.valid.injEq]
          constructor
          · intro h
            split at h
            · rename_i hlt
              cases h
              exact ⟨⟨rfl, rfl⟩, hlt⟩
            · cases h
          · intro h
            obtain ⟨⟨rfl, rfl⟩, hlt⟩ := h
            rw [if_pos hlt]

/-- A check adds the limit to the order. -/
theorem check_eq_ok_iff_ordered {candidate : Candidate} {limit : Int} {window : Window} :
    candidate.check limit = .ok window ↔
      candidate.ordered = .ok window ∧ (window.daySpan : Int) ≤ limit := by
  unfold check
  rw [exceptBind_eq_ok]
  constructor
  · intro h
    obtain ⟨found, hordered, h⟩ := h
    split at h
    · rename_i hspan
      cases h
      exact ⟨hordered, hspan⟩
    · cases h
  · intro h
    exact ⟨window, h.1, if_pos h.2⟩

/-- A check accepts exactly the candidates of windows that fit. -/
theorem check_eq_ok_iff {candidate : Candidate} {limit : Int} {window : Window} :
    candidate.check limit = .ok window ↔ candidate = ofWindow window ∧ window.Fits limit := by
  rw [check_eq_ok_iff_ordered, ordered_eq_ok_iff, and_assoc]
  rfl

/-- A check rejects a candidate exactly for its first fault. -/
theorem check_eq_error_iff {candidate : Candidate} {limit : Int} {reason : Rejection} :
    candidate.check limit = .error reason ↔ FirstFault limit candidate reason := by
  constructor
  · intro h
    obtain ⟨start, stop⟩ := candidate
    cases start with
    | invalid text => cases h; exact .start
    | valid start =>
        cases stop with
        | invalid text => cases h; exact .stop
        | valid stop =>
            rw [check_valid] at h
            split at h
            · rename_i hlt
              split at h
              · cases h
              · rename_i hspan
                cases h
                exact .span hlt (Int.lt_of_not_ge hspan)
            · rename_i hlt
              cases h
              exact .order hlt
  · intro h
    cases h with
    | start => rfl
    | stop => rfl
    | order hlt => rw [check_valid, if_neg hlt]
    | span hlt hspan => rw [check_valid, if_pos hlt, if_neg (Int.not_le_of_gt hspan)]

/-- A candidate is that of a window that fits, or something is wrong with it. -/
theorem fits_or_fault (candidate : Candidate) (limit : Int) :
    (∃ window, candidate = ofWindow window ∧ window.Fits limit) ∨
      ∃ reason, FirstFault limit candidate reason := by
  cases hcheck : candidate.check limit with
  | ok window => exact Or.inl ⟨window, check_eq_ok_iff.1 hcheck⟩
  | error reason => exact Or.inr ⟨reason, check_eq_error_iff.1 hcheck⟩

/-! ### The predicates -/

theorem isValid_iff {candidate : Candidate} {condition : Bool} :
    candidate.isValid condition = true ↔
      (∃ window, candidate.ordered = .ok window) ∧ condition = true := by
  rw [isValid, Bool.and_eq_true]
  cases candidate.ordered <;> simp [Except.toBool]

theorem isValidWithinLimit_eq (candidate : Candidate) : candidate.isValidWithinLimit =
    candidate.isValid (candidate.daySpan?.any fun days : Nat => (days : Int) ≤ maxDaySpan) := by
  unfold isValidWithinLimit
  cases candidate.daySpan? <;> rfl

theorem daySpan?_ofWindow (window : Window) :
    (ofWindow window).daySpan? = some window.daySpan := rfl

/-- **The predicate for requests is the check**, though it takes the distance first. -/
theorem isValidWithinLimit_iff {candidate : Candidate} : candidate.isValidWithinLimit = true ↔
    ∃ window, candidate.check maxDaySpan = .ok window := by
  rw [isValidWithinLimit_eq, isValid_iff]
  simp only [check_eq_ok_iff_ordered]
  constructor
  · intro h
    obtain ⟨⟨window, hordered⟩, hspan⟩ := h
    obtain ⟨rfl, -⟩ := ordered_eq_ok_iff.1 hordered
    exact ⟨window, hordered, by simpa [daySpan?_ofWindow] using hspan⟩
  · intro h
    obtain ⟨window, hordered, hspan⟩ := h
    obtain ⟨rfl, -⟩ := ordered_eq_ok_iff.1 hordered
    exact ⟨⟨window, hordered⟩, by simpa [daySpan?_ofWindow] using hspan⟩

theorem isValidWithinLimit_ofWindow {window : Window} :
    (ofWindow window).isValidWithinLimit = true ↔ window.Fits maxDaySpan := by
  simp only [isValidWithinLimit_iff, check_eq_ok_iff, ofWindow_inj, exists_eq_left']

end Candidate

end QueryWindow
