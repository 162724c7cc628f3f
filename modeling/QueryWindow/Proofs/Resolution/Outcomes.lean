import QueryWindow.Proofs.Resolution.Decision

/-!
# QueryWindow.Proofs.Resolution.Outcomes

**The two ways for a run to end.** A request is kept (`Settings.Keeps`) or replaced
(`Settings.Replaces`), and each of the two fixes all that a run leaves behind: the window, the one
reading of the clock, and the log. Which of them it is follows from what the ends amount to.
-/

namespace QueryWindow

namespace Settings

/-- A run gives the window that was asked for, and logs nothing. -/
def Keeps (settings : Settings) (lookback : Lookback) (request : Request) (s : Surroundings)
    (window : Window) : Prop :=
  (settings.resolveWithin lookback request).run s =
    (window, { s with clockReads := s.clockReads + 1 })

/-- A run gives the default window of its time, and logs why. -/
def Replaces (settings : Settings) (lookback : Lookback) (request : Request) (s : Surroundings)
    (reason : Rejection) : Prop :=
  let fallback := Window.lookingBack (s.clock s.clockReads) lookback
  (settings.resolveWithin lookback request).run s =
    (fallback, { s with
      clockReads := s.clockReads + 1
      log := s.log ++ [⟨reason, fallback⟩] })

variable {settings : Settings} {lookback : Lookback} {request : Request} {s : Surroundings}

/-! A run ends in one way only. -/

theorem Keeps.window_eq {window other : Window} (h : settings.Keeps lookback request s window)
    (hother : settings.Keeps lookback request s other) : window = other :=
  congrArg Prod.fst (Eq.trans (Eq.symm h) hother)

theorem Replaces.reason_eq {reason other : Rejection}
    (h : settings.Replaces lookback request s reason)
    (hother : settings.Replaces lookback request s other) : reason = other := by
  have hlog := congrArg (fun outcome => outcome.2.log) (Eq.trans (Eq.symm h) hother)
  have hlast := List.append_cancel_left hlog
  cases hlast
  rfl

theorem Keeps.not_replaces {window : Window} (h : settings.Keeps lookback request s window)
    (reason : Rejection) : ¬ settings.Replaces lookback request s reason := by
  intro hreplaced
  have hlog := congrArg (fun outcome => outcome.2.log) (Eq.trans (Eq.symm h) hreplaced)
  exact List.cons_ne_nil _ _ (List.self_eq_append_right.1 hlog)

/-! Which way it is follows from the ends. -/

/-- Ends that make a window that fits are kept. -/
theorem keeps_of_fits {window : Window}
    (hstart : AmountsTo settings.formats (s.clock s.clockReads)
      (Window.lookingBack (s.clock s.clockReads) lookback).start request.start (.valid window.start))
    (hstop : AmountsTo settings.formats (s.clock s.clockReads)
      (Window.lookingBack (s.clock s.clockReads) lookback).stop request.stop (.valid window.stop))
    (h : window.Fits 2) : settings.Keeps lookback request s window :=
  run_resolveWithin_iff.2 ⟨[], .kept hstart hstop h.1 h.2, by rw [List.append_nil]⟩

/-- Ends with a fault are replaced for the first one. -/
theorem replaces_of_fault {start stop : Reading} {reason : Rejection}
    (hstart : AmountsTo settings.formats (s.clock s.clockReads)
      (Window.lookingBack (s.clock s.clockReads) lookback).start request.start start)
    (hstop : AmountsTo settings.formats (s.clock s.clockReads)
      (Window.lookingBack (s.clock s.clockReads) lookback).stop request.stop stop)
    (h : Candidate.FirstFault 2 ⟨start, stop⟩ reason) :
    settings.Replaces lookback request s reason :=
  run_resolveWithin_iff.2 ⟨_, .replaced hstart hstop h, rfl⟩

/-! The candidate of a run has the same to say. -/

theorem keeps_of_candidate {window : Window}
    (h : settings.candidate request (s.clock s.clockReads)
      (Window.lookingBack (s.clock s.clockReads) lookback) = Candidate.ofWindow window)
    (hfits : window.Fits 2) : settings.Keeps lookback request s window := by
  rw [candidate, Candidate.ofWindow, Candidate.mk.injEq] at h
  exact keeps_of_fits (reading_eq_iff.1 h.1) (reading_eq_iff.1 h.2) hfits

theorem replaces_of_candidate {reason : Rejection}
    (h : Candidate.FirstFault 2 (settings.candidate request (s.clock s.clockReads)
      (Window.lookingBack (s.clock s.clockReads) lookback)) reason) :
    settings.Replaces lookback request s reason :=
  replaces_of_fault (amountsTo_reading _ _ _ _) (amountsTo_reading _ _ _ _) h

end Settings

end QueryWindow
