import QueryWindow.Proofs.Formats.Application
import QueryWindow.Proofs.Pattern.Times
import QueryWindow.Proofs.Resolution.Soundness

/-!
# QueryWindow.Proofs.Resolution.Validity

**Only well-formed timestamps are produced.** A text that is read means one, whatever the patterns
are (`Formats.valid_of_parse`), and going back from one leads to one, whether or not it stays inside
a leap second (`Window.valid_lookingBack`). A window either has the ends that a request amounts to
or is the default one, so that nothing else can come out of a resolver.
-/

namespace QueryWindow

theorem Window.valid_lookingBack {now : Timestamp} (hnow : now.Valid) (lookback : Lookback) :
    (lookingBack now lookback).Valid :=
  ⟨valid_start_lookingBack lookback hnow, hnow⟩

/-- What an end amounts to is well-formed, if all that it may draw on is. -/
theorem AmountsTo.valid {formats : Formats} {now default t : Timestamp} {asked : Option Endpoint}
    (hnow : now.Valid) (hdefault : default.Valid) (hasked : ∀ t, asked = some (.date t) → t.Valid)
    (h : AmountsTo formats now default asked (.valid t)) : t.Valid := by
  cases h with
  | missing => exact hdefault
  | blank => exact hdefault
  | date => exact hasked t rfl
  | read hread => exact Formats.valid_of_parse hnow.1 hread

theorem Request.Decides.valid {formats : Formats} {now : Timestamp} {fallback window : Window}
    {request : Request} {events : List Event} (hnow : now.Valid) (hfallback : fallback.Valid)
    (hrequest : request.Valid)
    (h : request.Decides formats now fallback window events) : window.Valid := by
  cases h with
  | kept hstart hstop =>
      exact ⟨hstart.valid hnow hfallback.1 hrequest.1, hstop.valid hnow hfallback.2 hrequest.2⟩
  | replaced => exact hfallback

namespace Settings

/-- **Only well-formed timestamps are produced.** With any patterns, a text that is read means one.
The default window has two of them for its ends, however far it looks back. So does every window of
a resolver, if the clock and the timestamps of the request are well-formed. -/
theorem resolveWithin_valid :
    (∀ (formats : Formats) (text : String) (reference t : Timestamp), reference.Valid →
      formats.parse text reference = .ok t → t.Valid) ∧
    (∀ (now : Timestamp) (lookback : Lookback), now.Valid →
      (Window.lookingBack now lookback).Valid) ∧
    (∀ (settings : Settings) (lookback : Lookback) (request : Request) (s : Surroundings),
      (s.clock s.clockReads).Valid → request.Valid →
      ((settings.resolveWithin lookback request).run s).1.Valid) := by
  refine ⟨?_, ?_, ?_⟩
  · intro formats text reference t href hread
    exact Formats.valid_of_parse href.1 hread
  · intro now lookback hnow
    exact Window.valid_lookingBack hnow lookback
  · intro settings lookback request s hnow hrequest
    obtain ⟨events, hdecides, -⟩ := run_resolveWithin_iff.1
      (Eq.refl ((settings.resolveWithin lookback request).run s))
    exact hdecides.valid hnow (Window.valid_lookingBack hnow lookback) hrequest

/-- Unix seconds, the second 60 and half a second more mean the middle of a leap second. From there
the default window starts within the leap second or before it, and a request for its first half is
met. -/
theorem resolveWithin_valid_leapSecond :
    let leap : Timestamp := ⟨⟨2016, 12, 31⟩, ⟨86399, 1500000000⟩⟩
    let formats : Formats := .strict "%s %S%.f"
    let request : Request :=
      ⟨some (.date ⟨leap.date, ⟨86399, 1000000000⟩⟩), some (.text "1483228799 60.5")⟩
    formats.parse "1483228799 60.5" .first = .ok leap ∧ leap.Valid ∧
      (Window.lookingBack leap ⟨500⟩).start = ⟨leap.date, ⟨86399, 1000000000⟩⟩ ∧
      (Window.lookingBack leap ⟨501⟩).start = ⟨leap.date, ⟨86399, 999000000⟩⟩ ∧
      (Window.lookingBack leap ⟨501⟩).Valid ∧ request.Valid ∧
      (((⟨⟨500⟩, formats⟩ : Settings).resolveWithin ⟨500⟩ request).run (.fixed leap)).1.Valid := by
  intro leap formats request
  have hparse : formats.parse "1483228799 60.5" .first = .ok leap := by decide +kernel
  obtain ⟨hread, hback, hresolve⟩ := resolveWithin_valid
  have hleap : leap.Valid := hread formats _ .first leap Timestamp.first_valid hparse
  have hrequest : request.Valid := ⟨fun t h => by cases h; decide, nofun⟩
  exact ⟨hparse, hleap, by decide, by decide, hback leap ⟨501⟩ hleap, hrequest,
    hresolve _ ⟨500⟩ request (.fixed leap) hleap hrequest⟩

end Settings

end QueryWindow
