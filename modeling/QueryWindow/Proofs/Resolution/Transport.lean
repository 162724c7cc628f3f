import QueryWindow.Proofs.Formats.Application
import QueryWindow.Proofs.Interchange.Requests
import QueryWindow.Proofs.Resolution.FeedBack
import QueryWindow.Proofs.Resolution.Soundness

/-!
# QueryWindow.Proofs.Resolution.Transport

**A request that was sent is met as the request itself, to the second.** On the way a timestamp
becomes a text, and it is read again where it arrives, if the formats there begin with the pattern
of the application. It is then the same timestamp without its part below the second, and no text can
stand for a timestamp and be blank, so that either end comes to the same
(`Settings.reading_asText`). All else follows from that: the window, or else the fault, and with it
the event.

Without the parts below the second, a window may have no length any more. To be met as it was, a
request must therefore have whole seconds.
-/

namespace QueryWindow

/-- An end to the second. -/
def Endpoint.truncate : Endpoint → Endpoint
  | text content => text content
  | date t => date t.truncate

/-- No timestamp of a request has a part below the second. -/
def Request.WholeSeconds (request : Request) : Prop :=
  (∀ t, request.start = some (.date t) → t.time.nano % nanosPerSecond = 0) ∧
    (∀ t, request.stop = some (.date t) → t.time.nano % nanosPerSecond = 0)

theorem Timestamp.truncate_eq_self {t : Timestamp} (ht : t.Valid)
    (h : t.time.nano % nanosPerSecond = 0) : t.truncate = t := by
  obtain ⟨date, second, nano⟩ := t
  obtain ⟨-, -, hnano, -⟩ := ht
  have hsame : (if (⟨second, nano⟩ : Time).isLeap then nanosPerSecond else 0) = nano := by
    simp only [nanosPerSecond] at h hnano
    by_cases hleap : nanosPerSecond ≤ nano
    · rw [Time.isLeap, decide_eq_true hleap, if_pos rfl]
      simp only [nanosPerSecond] at hleap ⊢
      omega
    · rw [Time.isLeap, decide_eq_false hleap, if_neg Bool.false_ne_true]
      simp only [nanosPerSecond] at hleap
      omega
  rw [truncate, Time.truncate, hsame]

theorem Endpoint.map_truncate_eq_self {asked : Option Endpoint}
    (hvalid : ∀ t, asked = some (.date t) → t.Valid)
    (hwhole : ∀ t, asked = some (.date t) → t.time.nano % nanosPerSecond = 0) :
    asked.map .truncate = asked := by
  match asked with
  | none => rfl
  | some (.text content) => rfl
  | some (.date t) =>
      have hsame : t.truncate = t := Timestamp.truncate_eq_self (hvalid t rfl) (hwhole t rfl)
      rw [Option.map_some, truncate, hsame]

/-- A request with whole seconds loses nothing. -/
theorem Request.mapEnds_truncate_eq_self {request : Request} (hvalid : request.Valid)
    (hwhole : request.WholeSeconds) : request.mapEnds .truncate = request := by
  rw [mapEnds, Endpoint.map_truncate_eq_self hvalid.1 hwhole.1,
    Endpoint.map_truncate_eq_self hvalid.2 hwhole.2]

namespace Settings

variable {settings : Settings}

/-- **A timestamp that was sent is read as itself**, to the second. Any other end is as it was. -/
theorem reading_asText (hfirst : settings.formats.dateTime.head? = some applicationPattern)
    {asked : Option Endpoint} (h : ∀ t, asked = some (.date t) → t.Valid)
    (default now : Timestamp) :
    settings.reading (asked.map .asText) default now =
      settings.reading (asked.map .truncate) default now := by
  match asked with
  | none => rfl
  | some (.text content) => rfl
  | some (.date t) =>
      have hread := Formats.parse_applicationText hfirst (h t rfl) now
      exact reading_eq_iff.2 (.read hread)

theorem candidate_asText (hfirst : settings.formats.dateTime.head? = some applicationPattern)
    {request : Request} (h : request.Valid) (now : Timestamp) (defaults : Window) :
    settings.candidate (request.mapEnds .asText) now defaults =
      settings.candidate (request.mapEnds .truncate) now defaults :=
  congrArg₂ Candidate.mk (reading_asText hfirst h.1 defaults.start now)
    (reading_asText hfirst h.2 defaults.stop now)

theorem run_asText (hfirst : settings.formats.dateTime.head? = some applicationPattern)
    (lookback : Lookback) {request : Request} (h : request.Valid) (s : Surroundings) :
    (settings.resolveWithin lookback (request.mapEnds .asText)).run s =
      (settings.resolveWithin lookback (request.mapEnds .truncate)).run s := by
  rw [run_resolveWithin, run_resolveWithin, candidate_asText hfirst h]

/-- **Sending a request does not change what becomes of it.** As a JSON value and as a JSON text,
what arrives is the request with its timestamps turned into texts. If the formats begin with the
application's pattern, it leads to the same window and the same events as the request with its
timestamps to the second, and if these have whole seconds, as the request itself. -/
theorem resolveWithin_transported
    (hfirst : settings.formats.dateTime.head? = some applicationPattern) (lookback : Lookback)
    {request : Request} (h : request.Valid) (s : Surroundings) :
    let received := request.mapEnds .asText
    ofJson Request.decode request.toJson = .ok received ∧
    ofJsonText Request.decode request.toJson.toText = .ok received ∧
    (settings.resolveWithin lookback received).run s =
      (settings.resolveWithin lookback (request.mapEnds .truncate)).run s ∧
    (request.WholeSeconds → (settings.resolveWithin lookback received).run s =
      (settings.resolveWithin lookback request).run s) := by
  intro received
  have hrun : (settings.resolveWithin lookback received).run s =
      (settings.resolveWithin lookback (request.mapEnds .truncate)).run s :=
    run_asText hfirst lookback h s
  refine ⟨request.ofJson_toJson, request.ofJsonText_toText, hrun, fun hwhole => ?_⟩
  rw [hrun, Request.mapEnds_truncate_eq_self h hwhole]

/-- Two moments of one leap second make a window, but what arrives of them does not. A whole second
of the year 10000 and a text with a quote, a backslash and a control arrive as they were. -/
theorem resolveWithin_transported_leapSecond :
    let now : Timestamp := ⟨⟨2017, 1, 1⟩, ⟨0, 1⟩⟩
    let window : Window :=
      ⟨⟨⟨2016, 12, 31⟩, ⟨86399, 1500000000⟩⟩, ⟨⟨2016, 12, 31⟩, ⟨86399, 1999999999⟩⟩⟩
    let leap : Request := window.asRequest
    let leapReceived : Request :=
      ⟨some (.text "2016-12-31 23:59:60"), some (.text "2016-12-31 23:59:60")⟩
    let whole : Request := ⟨some (.date ⟨⟨10000, 1, 1⟩, ⟨0, 0⟩⟩), some (.text "\"\\\x01")⟩
    let wholeReceived : Request :=
      ⟨some (.text "+10000-01-01 00:00:00"), some (.text "\"\\\x01")⟩
    let outcome (request : Request) := (standard.resolveWithin ⟨1⟩ request).run (.fixed now)
    standard.formats.dateTime.head? = some applicationPattern ∧
      (leap.Valid ∧ ofJsonText Request.decode leap.toJson.toText = .ok leapReceived ∧
        (outcome leap).1 = window ∧ (outcome leapReceived).1 = Window.lookingBack now ⟨1⟩) ∧
      (whole.Valid ∧ whole.WholeSeconds ∧
        ofJsonText Request.decode whole.toJson.toText = .ok wholeReceived ∧
        outcome wholeReceived = outcome whole) := by
  intro now window leap leapReceived whole wholeReceived outcome
  have hfirst : standard.formats.dateTime.head? = some applicationPattern := rfl
  have hleap : leap.Valid := ⟨fun t h => by cases h; decide, fun t h => by cases h; decide⟩
  have hwhole : whole.Valid := ⟨fun t h => by cases h; decide, fun t h => by cases h⟩
  have hseconds : whole.WholeSeconds := ⟨fun t h => by cases h; decide, fun t h => by cases h⟩
  have hleapReceived : leap.mapEnds .asText = leapReceived := by decide +kernel
  have hwholeReceived : whole.mapEnds .asText = wholeReceived := by decide +kernel
  have hleapLaw := resolveWithin_transported hfirst ⟨1⟩ hleap (.fixed now)
  have hwholeLaw := resolveWithin_transported hfirst ⟨1⟩ hwhole (.fixed now)
  rw [hleapReceived] at hleapLaw
  rw [hwholeReceived] at hwholeLaw
  have hkept : (outcome leap).1 = window := by decide
  have hreplaced : (outcome (leap.mapEnds .truncate)).1 = Window.lookingBack now ⟨1⟩ := by decide
  have hlost : (outcome leapReceived).1 = Window.lookingBack now ⟨1⟩ :=
    (congrArg Prod.fst hleapLaw.2.2.1).trans hreplaced
  exact ⟨hfirst, ⟨hleap, hleapLaw.2.1, hkept, hlost⟩,
    ⟨hwhole, hseconds, hwholeLaw.2.1, hwholeLaw.2.2.2 hseconds⟩⟩

end Settings

end QueryWindow
