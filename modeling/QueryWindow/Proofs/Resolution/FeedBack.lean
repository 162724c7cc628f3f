import QueryWindow.Proofs.Resolution.Outcomes

/-!
# QueryWindow.Proofs.Resolution.FeedBack

**Asking again for a window that was resolved.** A request for two timestamps needs neither patterns
nor defaults: what becomes of it depends on the window alone, if it fits, and on the clock and the
lookback alone, if it does not. A window that was resolved fits, or it is the default one of its
time (`Settings.fits_or_eq_lookingBack`), so that asking for it again at the same time leads to it
once more.

`Standing` follows a window through any number of changes of clock and settings, with requests for
the window between them. What fits stays as it is at each of them (`Standing.window_step`).
-/

namespace QueryWindow

/-- The request for the ends of a window. -/
def Window.asRequest (window : Window) : Request :=
  ⟨some (.date window.start), some (.date window.stop)⟩

/-- A window is the result because it fits, or because it is the default one. -/
theorem Request.Decides.fits_or_eq {formats : Formats} {now : Timestamp} {fallback window : Window}
    {request : Request} {events : List Event}
    (h : request.Decides formats now fallback window events) :
    window.Fits 2 ∨ window = fallback := by
  cases h with
  | kept _ _ hlt hspan => exact Or.inl ⟨hlt, hspan⟩
  | replaced => exact Or.inr rfl

namespace Settings

variable {window : Window}

/-- A window that fits is kept, by whatever settings and at whatever time. -/
theorem run_asRequest_of_fits (settings : Settings) (lookback : Lookback) (s : Surroundings)
    (h : window.Fits 2) : (settings.resolveWithin lookback window.asRequest).run s =
      (window, { s with clockReads := s.clockReads + 1 }) :=
  keeps_of_fits (.date _) (.date _) h

/-- A window that does not fit is replaced, and its first fault is logged. -/
theorem run_asRequest_of_not_fits (settings : Settings) (lookback : Lookback) (s : Surroundings)
    (h : ¬ window.Fits 2) : ∃ reason, Candidate.FirstFault 2 (Candidate.ofWindow window) reason ∧
      (settings.resolveWithin lookback window.asRequest).run s =
        (Window.lookingBack (s.clock s.clockReads) lookback,
          { s with
            clockReads := s.clockReads + 1
            log := s.log ++ [⟨reason, Window.lookingBack (s.clock s.clockReads) lookback⟩] }) := by
  rcases Candidate.fits_or_fault (Candidate.ofWindow window) 2 with
    ⟨kept, hsame, hfits⟩ | ⟨reason, hfault⟩
  · rw [← Candidate.ofWindow_inj.1 hsame] at hfits
    exact absurd hfits h
  · exact ⟨reason, hfault, replaces_of_fault (.date _) (.date _) hfault⟩

theorem fits_or_eq_lookingBack (settings : Settings) (lookback : Lookback) (request : Request)
    (s : Surroundings) : ((settings.resolveWithin lookback request).run s).1.Fits 2 ∨
      ((settings.resolveWithin lookback request).run s).1 =
        Window.lookingBack (s.clock s.clockReads) lookback := by
  obtain ⟨events, hdecides, -⟩ := run_resolveWithin_iff.1
    (Eq.refl ((settings.resolveWithin lookback request).run s))
  exact hdecides.fits_or_eq

end Settings

/-! ### Windows through changes -/

/-- What may happen while a window is in use. -/
inductive Change
  /-- The clock is set, and its readings are others from now on. -/
  | clock (readings : Nat → Timestamp)
  /-- The resolver is set up anew. -/
  | settings (settings : Settings)
  /-- The window is asked for again, with the given lookback or that of the settings. -/
  | feedBack (lookback : Option Lookback)

/-- A window in use, with the settings of its resolver and the surroundings. -/
structure Standing where
  settings : Settings
  surroundings : Surroundings
  /-- The window resolved last. -/
  window : Window

namespace Standing

/-- What one change leads to. -/
def step (standing : Standing) : Change → Standing
  | .clock readings =>
    { standing with surroundings := { standing.surroundings with clock := readings } }
  | .settings settings => { standing with settings := settings }
  | .feedBack lookback =>
    let outcome := (standing.settings.resolveWithin (lookback.getD standing.settings.lookback)
      standing.window.asRequest).run standing.surroundings
    { standing with window := outcome.1, surroundings := outcome.2 }

/-- What changes lead to, one after the other. -/
def after (standing : Standing) (changes : List Change) : Standing := changes.foldl step standing

variable {standing : Standing}

/-- No change affects a window that fits, nor is there anything to log. -/
theorem window_step (h : standing.window.Fits 2) (change : Change) :
    (standing.step change).window = standing.window ∧
      (standing.step change).surroundings.log = standing.surroundings.log := by
  cases change with
  | clock readings => exact ⟨rfl, rfl⟩
  | settings settings => exact ⟨rfl, rfl⟩
  | feedBack lookback =>
      simp only [step, Settings.run_asRequest_of_fits _ _ _ h, and_self]

theorem window_after (h : standing.window.Fits 2) (changes : List Change) :
    (standing.after changes).window = standing.window ∧
      (standing.after changes).surroundings.log = standing.surroundings.log := by
  induction changes generalizing standing with
  | nil => exact ⟨rfl, rfl⟩
  | cons change changes ih =>
      obtain ⟨hwindow, hlog⟩ := window_step h change
      have hrest := @ih (standing.step change) (hwindow ▸ h)
      rw [hwindow, hlog] at hrest
      exact hrest

end Standing

namespace Settings

/-- **A resolved window is stable.** Asked for again, by whatever settings and at whatever time, it
comes back without an event if it fits, and otherwise the default window of that time is taken. At
the same time and with the same lookback it comes back in either case. And if it fits, it stays
through any number of changes with requests for it in between. -/
theorem resolveWithin_fedBack (settings : Settings) (lookback : Lookback) (request : Request)
    (s : Surroundings) :
    let window := ((settings.resolveWithin lookback request).run s).1
    (∀ (settings' : Settings) (lookback' : Lookback) (s' : Surroundings),
      let fallback := Window.lookingBack (s'.clock s'.clockReads) lookback'
      let again := (settings'.resolveWithin lookback' window.asRequest).run s'
      (window.Fits 2 → again = (window, { s' with clockReads := s'.clockReads + 1 })) ∧
      (¬ window.Fits 2 → again.1 = fallback ∧
        ∃ reason, Candidate.FirstFault 2 (Candidate.ofWindow window) reason ∧
          again.2.log = s'.log ++ [⟨reason, fallback⟩])) ∧
    (∀ (settings' : Settings) (s' : Surroundings),
      s'.clock s'.clockReads = s.clock s.clockReads →
        ((settings'.resolveWithin lookback window.asRequest).run s').1 = window) ∧
    (window.Fits 2 → ∀ (settings' : Settings) (s' : Surroundings) (changes : List Change),
      let later := (Standing.mk settings' s' window).after changes
      later.window = window ∧ later.surroundings.log = s'.log) := by
  intro window
  have horigin : window.Fits 2 ∨ window = Window.lookingBack (s.clock s.clockReads) lookback :=
    fits_or_eq_lookingBack settings lookback request s
  refine ⟨fun settings' lookback' s' => ⟨fun hfits => ?_, fun hnot => ?_⟩, ?_, ?_⟩
  · exact run_asRequest_of_fits settings' lookback' s' hfits
  · obtain ⟨reason, hfault, hrun⟩ := run_asRequest_of_not_fits settings' lookback' s' hnot
    rw [hrun]
    exact ⟨rfl, reason, hfault, rfl⟩
  · intro settings' s' hnow
    by_cases hfits : window.Fits 2
    · rw [run_asRequest_of_fits settings' lookback s' hfits]
    · -- Only a default window does not fit, and the default window is still the same.
      obtain ⟨reason, -, hrun⟩ := run_asRequest_of_not_fits settings' lookback s' hfits
      rw [hrun, hnow]
      exact (horigin.resolve_left hfits).symm
  · intro hfits settings' s' changes
    exact @Standing.window_after ⟨settings', s', window⟩ hfits changes

/-- A default window of three days, which does not fit, comes back as long as the clock stands
still; half a day later another one is taken. A window of one second stays. -/
theorem resolveWithin_fedBack_threeDays :
    let now : Timestamp := ⟨⟨2024, 3, 1⟩, ⟨43200, 0⟩⟩
    let later : Timestamp := ⟨⟨2024, 3, 2⟩, ⟨0, 0⟩⟩
    let long := ((standard.resolveWithin ⟨259200000⟩ .empty).run (.fixed now)).1
    let short := ((standard.resolveWithin ⟨1000⟩ .empty).run (.fixed now)).1
    ¬ long.Fits 2 ∧ short.Fits 2 ∧
      ((standard.resolveWithin ⟨259200000⟩ long.asRequest).run (.fixed now)).1 = long ∧
      ((standard.resolveWithin ⟨1000⟩ long.asRequest).run (.fixed later)).1 =
        Window.lookingBack later ⟨1000⟩ ∧
      ((Standing.mk standard (.fixed now) short).after
        [.clock fun _ => later, .feedBack none, .settings ⟨⟨0⟩, ⟨[], [], []⟩⟩,
          .feedBack (some ⟨5⟩)]).window = short := by
  intro now later long short
  have hlong : ¬ long.Fits 2 := by decide
  have hshort : short.Fits 2 := by decide
  have hlaw := resolveWithin_fedBack standard ⟨259200000⟩ .empty (.fixed now)
  have hstays := (resolveWithin_fedBack standard ⟨1000⟩ .empty (.fixed now)).2.2
  exact ⟨hlong, hshort, hlaw.2.1 standard (.fixed now) rfl,
    ((hlaw.1 standard ⟨1000⟩ (.fixed later)).2 hlong).1, (hstays hshort standard (.fixed now) _).1⟩

end Settings

end QueryWindow
