import QueryWindow.Proofs.Pattern.Dates
import QueryWindow.Proofs.Resolution.Decision

/-!
# QueryWindow.Proofs.Resolution.Soundness

**The window of a resolver can be used.** A window that was kept passed its check, and its ends are
on dates of the calendar, so that it is sound, even if they prolong a second within a minute. A
default window is not checked; it is sound if the lookback is neither empty nor longer than two days
and the calendar does not start now, whatever lies between (`Window.sound_lookingBack`). An unsound
window can therefore only be the default one.
-/

namespace QueryWindow

/-- The timestamps of a request can be represented. -/
def Request.Representable (request : Request) : Prop :=
  (∀ t, request.start = some (.date t) → t.Representable) ∧
    (∀ t, request.stop = some (.date t) → t.Representable)

/-- The timestamps of a request are well-formed. -/
def Request.Valid (request : Request) : Prop :=
  (∀ t, request.start = some (.date t) → t.Valid) ∧ (∀ t, request.stop = some (.date t) → t.Valid)

/-- What an end amounts to is on a date of the calendar, if all that it may draw on is. -/
theorem AmountsTo.valid_date {formats : Formats} {now default t : Timestamp}
    {asked : Option Endpoint} (hnow : now.date.Valid) (hdefault : default.date.Valid)
    (hasked : ∀ t, asked = some (.date t) → t.Representable)
    (h : AmountsTo formats now default asked (.valid t)) : t.date.Valid := by
  cases h with
  | missing => exact hdefault
  | blank => exact hdefault
  | date => exact (hasked t rfl).1
  | read hp => exact Formats.valid_date_of_parse hnow hp

namespace Window

/-- Between dates of the calendar, a window that fits the limit for requests is sound. -/
theorem sound_of_fits {window : Window} (hstart : window.start.date.Valid)
    (hstop : window.stop.date.Valid) (h : window.Fits maxDaySpan) : window.Sound := by
  obtain ⟨hlt, hspan⟩ := h
  have hdays := Timestamp.natAbs_daysUntil hstart hstop hlt
  exact ⟨hlt, Timestamp.daysUntil_nonneg hstart hstop hlt, hdays ▸ hspan⟩

theorem Sound.fits {window : Window} (h : window.Sound) : window.Fits maxDaySpan := by
  obtain ⟨hlt, hpos, hspan⟩ := h
  exact ⟨hlt, by omega⟩

end Window

/-- A window that was kept is sound, and any other is the default one. -/
theorem Request.Decides.sound_or_eq {formats : Formats} {now : Timestamp} {fallback window : Window}
    {request : Request} {events : List Event} (hnow : now.date.Valid)
    (hstart : fallback.start.date.Valid) (hstop : fallback.stop.date.Valid)
    (hrequest : request.Representable)
    (h : request.Decides formats now fallback window events) :
    window.Sound ∨ window = fallback := by
  cases h with
  | kept ha hb hlt hspan =>
      exact Or.inl (Window.sound_of_fits (ha.valid_date hnow hstart hrequest.1)
        (hb.valid_date hnow hstop hrequest.2) ⟨hlt, hspan⟩)
  | replaced => exact Or.inr rfl

namespace Settings

theorem resolveWithin_sound_or_eq (settings : Settings) (lookback : Lookback) {request : Request}
    {s : Surroundings} (hnow : (s.clock s.clockReads).Representable)
    (hrequest : request.Representable) :
    ((settings.resolveWithin lookback request).run s).1.Sound ∨
      ((settings.resolveWithin lookback request).run s).1 =
        Window.lookingBack (s.clock s.clockReads) lookback := by
  obtain ⟨events, hdecides, -⟩ := run_resolveWithin_iff.1
    (Eq.refl ((settings.resolveWithin lookback request).run s))
  have hstart := Window.representable_start_lookingBack lookback hnow
  exact hdecides.sound_or_eq hnow.1 hstart.1 hnow.1 hrequest

/-- **Windows are sound.** With a lookback from one millisecond to 48 hours, and a clock past the
first moment of the calendar, every request leads to a window that may be used. With any lookback
and any clock, the only window that may not be used is the default one. It does not matter where in
a minute a timestamp prolongs a second. -/
theorem resolveWithin_sound (settings : Settings) (lookback : Lookback) (request : Request)
    (s : Surroundings) (hnow : (s.clock s.clockReads).Representable)
    (hrequest : request.Representable) :
    let now := s.clock s.clockReads
    let window := ((settings.resolveWithin lookback request).run s).1
    (Timestamp.first < now → 1 ≤ lookback.millis.toNat → lookback.millis.toNat ≤ 172800000 →
      window.Sound ∧ (Candidate.ofWindow window).isValidWithinLimit = true) ∧
    (¬ window.Sound → window = Window.lookingBack now lookback) := by
  intro now window
  have hcases : window.Sound ∨ window = Window.lookingBack now lookback :=
    resolveWithin_sound_or_eq settings lookback hnow hrequest
  refine ⟨fun hfirst hpos hle => ?_, hcases.resolve_left⟩
  have hsound : window.Sound := by
    rcases hcases with h | h
    · exact h
    · rw [h]
      exact Window.sound_lookingBack hnow hfirst hpos hle
  exact ⟨hsound, Candidate.isValidWithinLimit_ofWindow.2 hsound.fits⟩

/-- In a second that is prolonged within a minute, with the longest lookback, a request that ends
before it starts leads to a window that may be used. -/
theorem resolveWithin_sound_leapSecond :
    let now : Timestamp := ⟨⟨2016, 12, 31⟩, ⟨86369, 1500000000⟩⟩
    let request : Request := ⟨some (.date ⟨⟨2017, 1, 1⟩, ⟨0, 0⟩⟩), some (.text " 23:59:60 ")⟩
    let window := ((standard.resolveWithin ⟨172800000⟩ request).run (.fixed now)).1
    now.Representable ∧ ¬ now.Valid ∧ request.Representable ∧ window.Sound := by
  intro now request window
  have hnow : now.Representable := by decide
  have hrequest : request.Representable :=
    ⟨fun t h => by cases h; decide, fun t h => by cases h⟩
  have hsound := (resolveWithin_sound standard ⟨172800000⟩ request (.fixed now) hnow hrequest).1
    (by decide) (by simp) (by simp)
  exact ⟨hnow, by decide, hrequest, hsound.1⟩

end Settings

end QueryWindow
