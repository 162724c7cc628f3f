import QueryWindow.Proofs.Candidate.Verdict
import QueryWindow.Proofs.Text.Trim
import QueryWindow.Proofs.Window.Default
import QueryWindow.Resolution

/-!
# QueryWindow.Proofs.Resolution.Decision

**The decision of a resolver, as a relation.** `AmountsTo` says what one end of a request
comes to, and `Request.Decides` puts two ends and a verdict together: either both ends make a window
that fits, which is kept without a word, or there is a first fault, and the default window is taken
with one event that names the fault.

A run of the resolver takes one reading of the clock and is otherwise this relation
(`Settings.run_resolveWithin_iff`): it does what the relation allows, and nothing else is possible.
-/

namespace QueryWindow

/-! ### Ends of a request -/

/-- What an end of a request comes to: the default where nothing was asked for, the timestamp that
was given, or what reading the text now leads to. -/
inductive AmountsTo (formats : Formats) (now default : Timestamp) :
    Option Endpoint → Reading → Prop
  /-- There is no such end. -/
  | missing : AmountsTo formats now default none (.valid default)
  /-- The text has blanks only. -/
  | blank {content : String} (h : ∀ c ∈ content.toList, isBlank c = true) :
      AmountsTo formats now default (some (.text content)) (.valid default)
  /-- A timestamp stands for itself. -/
  | date (t : Timestamp) : AmountsTo formats now default (some (.date t)) (.valid t)
  /-- The text means a timestamp. -/
  | read {content : String} {t : Timestamp} (h : formats.parse content now = .ok t) :
      AmountsTo formats now default (some (.text content)) (.valid t)
  /-- The text is not blank and means nothing; it is kept as it came. -/
  | unread {content : String} {error : ParseError} (hb : ∃ c ∈ content.toList, isBlank c = false)
      (h : formats.parse content now = .error error) :
      AmountsTo formats now default (some (.text content)) (.invalid content)

theorem isBlank_text_iff {content : String} :
    (Endpoint.text content).isBlank = true ↔ ∀ c ∈ content.toList, isBlank c = true := by
  rw [Endpoint.isBlank, List.isEmpty_iff, trim_eq_nil_iff]

/-- Blank text is refused before any pattern is tried. -/
theorem Formats.parse_of_blank (formats : Formats) {content : String} (now : Timestamp)
    (h : ∀ c ∈ content.toList, isBlank c = true) :
    formats.parse content now = .error .empty := by
  unfold parse
  rw [trim_eq_nil_iff.2 h]
  rfl

namespace Settings

variable {settings : Settings} {now default : Timestamp} {asked : Option Endpoint}

theorem reading_text (settings : Settings) (content : String) (default now : Timestamp) :
    settings.reading (some (.text content)) default now =
      if (Endpoint.text content).isBlank then .valid default
      else .ofText settings.formats content now := rfl

theorem amountsTo_reading (settings : Settings) (asked : Option Endpoint) (default now : Timestamp) :
    AmountsTo settings.formats now default asked (settings.reading asked default now) := by
  match asked with
  | none => exact .missing
  | some (.date t) => exact .date t
  | some (.text content) =>
      rw [reading_text]
      by_cases hb : (Endpoint.text content).isBlank = true
      · rw [if_pos hb]
        exact .blank (isBlank_text_iff.1 hb)
      · rw [if_neg hb, Reading.ofText]
        cases hp : settings.formats.parse content now with
        | ok t => exact .read hp
        | error e =>
            refine .unread ?_ hp
            rw [isBlank_text_iff] at hb
            simpa using hb

theorem reading_of_amountsTo {reading : Reading}
    (h : AmountsTo settings.formats now default asked reading) :
    settings.reading asked default now = reading := by
  cases h with
  | missing => rfl
  | date => rfl
  | blank hb => rw [reading_text, if_pos (isBlank_text_iff.2 hb)]
  | read hp =>
      rw [reading_text, if_neg, Reading.ofText, hp]
      intro hb
      rw [Formats.parse_of_blank _ _ (isBlank_text_iff.1 hb)] at hp
      cases hp
  | unread hb hp =>
      rw [reading_text, if_neg, Reading.ofText, hp]
      intro h
      obtain ⟨c, hc, hnot⟩ := hb
      rw [isBlank_text_iff.1 h c hc] at hnot
      cases hnot

/-- An end is read exactly as the relation says. -/
theorem reading_eq_iff {reading : Reading} : settings.reading asked default now = reading ↔
    AmountsTo settings.formats now default asked reading :=
  ⟨fun h => h ▸ amountsTo_reading settings asked default now, reading_of_amountsTo⟩

end Settings

/-! ### The decision -/

/-- The window for a request and the events that are logged for it. -/
inductive Request.Decides (formats : Formats) (now : Timestamp) (fallback : Window)
    (request : Request) : Window → List Event → Prop
  /-- Both ends are there, in order and close enough. -/
  | kept {start stop : Timestamp}
      (hstart : AmountsTo formats now fallback.start request.start (.valid start))
      (hstop : AmountsTo formats now fallback.stop request.stop (.valid stop))
      (hlt : start < stop) (hspan : ((start.daysUntil stop).natAbs : Int) ≤ 2) :
      Decides formats now fallback request ⟨start, stop⟩ []
  /-- Something is wrong with the ends. -/
  | replaced {start stop : Reading} {reason : Rejection}
      (hstart : AmountsTo formats now fallback.start request.start start)
      (hstop : AmountsTo formats now fallback.stop request.stop stop)
      (hfault : Candidate.FirstFault 2 ⟨start, stop⟩ reason) :
      Decides formats now fallback request fallback [⟨reason, fallback⟩]

namespace Settings

variable {settings : Settings} {lookback : Lookback} {request : Request} {s : Surroundings}

/-- A run takes one reading of the clock, and decides as the relation says. -/
theorem run_resolveWithin_iff {window : Window} {after : Surroundings} :
    (settings.resolveWithin lookback request).run s = (window, after) ↔
      ∃ events, request.Decides settings.formats (s.clock s.clockReads)
          (Window.lookingBack (s.clock s.clockReads) lookback) window events ∧
        after = { s with clockReads := s.clockReads + 1, log := s.log ++ events } := by
  rw [run_resolveWithin]
  generalize s.clock s.clockReads = now
  generalize Window.lookingBack now lookback = fallback
  constructor
  · intro h
    have hstart := amountsTo_reading settings request.start fallback.start now
    have hstop := amountsTo_reading settings request.stop fallback.stop now
    cases hcheck : (settings.candidate request now fallback).check maxDaySpan with
    | ok kept =>
        rw [hcheck, Surroundings.run_settle_ok] at h
        cases h
        obtain ⟨hc, hlt, hspan⟩ := Candidate.check_eq_ok_iff.1 hcheck
        simp only [candidate, Candidate.ofWindow, Candidate.mk.injEq] at hc
        exact ⟨[], .kept (hc.1 ▸ hstart) (hc.2 ▸ hstop) hlt hspan, by rw [List.append_nil]⟩
    | error reason =>
        rw [hcheck, Surroundings.run_settle_error] at h
        cases h
        exact ⟨_, .replaced hstart hstop (Candidate.check_eq_error_iff.1 hcheck), rfl⟩
  · intro h
    obtain ⟨events, hdecides, rfl⟩ := h
    cases hdecides with
    | @kept start stop hstart hstop hlt hspan =>
        have hfits : (⟨start, stop⟩ : Window).Fits maxDaySpan := ⟨hlt, hspan⟩
        have hcheck := Candidate.check_eq_ok_iff.2 ⟨rfl, hfits⟩
        rw [candidate, reading_of_amountsTo hstart, reading_of_amountsTo hstop]
        rw [Candidate.ofWindow] at hcheck
        rw [hcheck, Surroundings.run_settle_ok, List.append_nil]
    | replaced hstart hstop hfault =>
        have hcheck := Candidate.check_eq_error_iff.2 hfault
        rw [candidate, reading_of_amountsTo hstart, reading_of_amountsTo hstop, maxDaySpan,
          hcheck, Surroundings.run_settle_error]

end Settings

/-! ### Requests that ask for nothing -/

/-- Neither end of a request is there, blank texts being none. -/
def Request.AsksNothing (request : Request) : Prop :=
  (∀ e ∈ request.start, e.isBlank = true) ∧ (∀ e ∈ request.stop, e.isBlank = true)

theorem amountsTo_default {formats : Formats} {now default : Timestamp} {asked : Option Endpoint}
    (h : ∀ e ∈ asked, e.isBlank = true) : AmountsTo formats now default asked (.valid default) := by
  match asked with
  | none => exact .missing
  | some (.text content) => exact .blank (isBlank_text_iff.1 (h _ rfl))
  | some (.date t) => exact absurd (h _ rfl) (by simp [Endpoint.isBlank])

namespace Request.Decides

variable {formats : Formats} {now : Timestamp} {lookback : Lookback} {request : Request}

/-- The default window is put to the same test as any other. -/
theorem of_asksNothing {fallback : Window} (h : request.AsksNothing) (hfits : fallback.Fits 2) :
    request.Decides formats now fallback fallback [] :=
  .kept (amountsTo_default h.1) (amountsTo_default h.2) hfits.1 hfits.2

theorem of_asksNothing_of_fault {fallback : Window} {reason : Rejection}
    (h : request.AsksNothing)
    (hfault : Candidate.FirstFault 2 (Candidate.ofWindow fallback) reason) :
    request.Decides formats now fallback fallback [⟨reason, fallback⟩] :=
  .replaced (amountsTo_default h.1) (amountsTo_default h.2) hfault

/-- A default window without length is out of order. -/
theorem of_empty_default (h : request.AsksNothing) (hv : now.Representable)
    (hempty : lookback.millis.toNat = 0 ∨ now = Timestamp.first) :
    request.Decides formats now (Window.lookingBack now lookback)
      (Window.lookingBack now lookback) [⟨.notOrdered now now, Window.lookingBack now lookback⟩] := by
  refine .of_asksNothing_of_fault h ?_
  rw [Window.lookingBack_empty hv hempty]
  exact .order (Timestamp.lt_irrefl now)

/-- A default window that does not fit and has some length is too long. -/
theorem of_long_default (h : request.AsksNothing) (hv : now.Representable)
    (hpos : 0 < lookback.millis.toNat) (hfirst : Timestamp.first < now)
    (hnot : ¬ (Window.lookingBack now lookback).Fits 2) :
    request.Decides formats now (Window.lookingBack now lookback) (Window.lookingBack now lookback)
      [⟨.spanExceeded (Window.lookingBack now lookback).daySpan 2,
        Window.lookingBack now lookback⟩] := by
  have hlt : (Window.lookingBack now lookback).start < now :=
    (Window.start_lookingBack_lt_iff lookback hv).2 ⟨hfirst, hpos⟩
  refine .of_asksNothing_of_fault h (.span hlt ?_)
  exact Int.lt_of_not_ge fun hspan => hnot ⟨hlt, hspan⟩

/-- If nothing is asked for, the default window is the result whatever is decided about it. -/
theorem exists_of_asksNothing (formats : Formats) (lookback : Lookback) (h : request.AsksNothing)
    (hv : now.Representable) : ∃ events, request.Decides formats now
      (Window.lookingBack now lookback) (Window.lookingBack now lookback) events := by
  by_cases hfits : (Window.lookingBack now lookback).Fits 2
  · exact ⟨_, of_asksNothing h hfits⟩
  · rcases Nat.eq_zero_or_pos lookback.millis.toNat with hzero | hpos
    · exact ⟨_, of_empty_default h hv (Or.inl hzero)⟩
    · rcases Timestamp.first_le hv.1 with hfirst | hfirst
      · exact ⟨_, of_empty_default h hv (Or.inr hfirst)⟩
      · exact ⟨_, of_long_default h hv hpos hfirst hfits⟩

end Request.Decides

namespace Settings

/-- **The decision law.** A run takes one reading of the clock. It keeps the two ends that the
request amounts to if they make a window that fits, and logs nothing; in every other case it gives
the default window and logs its first fault, as one entry that names the fault and this window. If
nothing was asked for, the window is the default one either way, and the log says what is wrong with
it. -/
theorem resolveWithin_decision (settings : Settings) (lookback : Lookback) (request : Request)
    (s : Surroundings) :
    let now := s.clock s.clockReads
    let fallback := Window.lookingBack now lookback
    let outcome := (settings.resolveWithin lookback request).run s
    (∀ window after, outcome = (window, after) ↔
      ∃ events, request.Decides settings.formats now fallback window events ∧
        after = { s with clockReads := s.clockReads + 1, log := s.log ++ events }) ∧
    (∀ start stop reason, AmountsTo settings.formats now fallback.start request.start start →
      AmountsTo settings.formats now fallback.stop request.stop stop →
      Candidate.FirstFault 2 ⟨start, stop⟩ reason →
        outcome.1 = fallback ∧ outcome.2.log.map Event.entry = s.log.map Event.entry ++
          [⟨"DEBUG", "rejected requested date range, using default window", reason.message,
            fallback.text⟩]) ∧
    (request.AsksNothing → now.Representable → outcome.1 = fallback ∧
      (lookback.millis.toNat = 0 ∨ now = Timestamp.first →
        outcome.2.log = s.log ++ [⟨.notOrdered now now, fallback⟩]) ∧
      (0 < lookback.millis.toNat → Timestamp.first < now → fallback.Fits 2 →
        outcome.2.log = s.log) ∧
      (0 < lookback.millis.toNat → Timestamp.first < now → ¬ fallback.Fits 2 →
        outcome.2.log = s.log ++ [⟨.spanExceeded fallback.daySpan 2, fallback⟩])) := by
  intro now fallback outcome
  have hlaw : ∀ window after, outcome = (window, after) ↔
      ∃ events, request.Decides settings.formats now fallback window events ∧
        after = { s with clockReads := s.clockReads + 1, log := s.log ++ events } :=
    fun _ _ => run_resolveWithin_iff
  have hfaulty : ∀ start stop reason,
      AmountsTo settings.formats now fallback.start request.start start →
      AmountsTo settings.formats now fallback.stop request.stop stop →
      Candidate.FirstFault 2 ⟨start, stop⟩ reason →
        outcome.1 = fallback ∧ outcome.2.log.map Event.entry = s.log.map Event.entry ++
          [⟨"DEBUG", "rejected requested date range, using default window", reason.message,
            fallback.text⟩] := by
    intro start stop reason hstart hstop hfault
    rw [(hlaw _ _).2 ⟨_, .replaced hstart hstop hfault, rfl⟩]
    exact ⟨rfl, List.map_append⟩
  refine ⟨hlaw, hfaulty, fun hnothing hv => ?_⟩
  have hout : ∀ {events}, request.Decides settings.formats now fallback fallback events →
      outcome.1 = fallback ∧ outcome.2.log = s.log ++ events := by
    intro events hd
    rw [(hlaw _ _).2 ⟨events, hd, rfl⟩]
    exact ⟨rfl, rfl⟩
  refine ⟨?_, ?_, ?_, ?_⟩
  · obtain ⟨events, hd⟩ :=
      Request.Decides.exists_of_asksNothing settings.formats lookback hnothing hv
    exact (hout hd).1
  · intro hempty
    exact (hout (.of_empty_default hnothing hv hempty)).2
  · intro _ _ hfits
    rw [(hout (.of_asksNothing hnothing hfits)).2, List.append_nil]
  · intro hpos hfirst hnot
    exact (hout (.of_long_default hnothing hv hpos hfirst hnot)).2

/-- With no lookback, a blank request is met by an empty window, and the log says so. -/
theorem resolveWithin_decision_noLookback :
    let now : Timestamp := ⟨⟨2024, 2, 29⟩, ⟨43200, 0⟩⟩
    let request : Request := ⟨some (.text " "), none⟩
    let outcome := (standard.resolveWithin ⟨0⟩ request).run (.fixed now)
    request.AsksNothing ∧ now.Representable ∧ outcome.1 = Window.lookingBack now ⟨0⟩ ∧
      outcome.2.log = [⟨.notOrdered now now, Window.lookingBack now ⟨0⟩⟩] ∧
      outcome.2.log.map Event.entry = [⟨"DEBUG",
        "rejected requested date range, using default window",
        "Invalid date range: from (2024-02-29 12:00:00) is not before to (2024-02-29 12:00:00)",
        "2024-02-29 12:00:00/2024-02-29 12:00:00"⟩] := by
  intro now request outcome
  have hnothing : request.AsksNothing :=
    ⟨fun e he => by cases he; decide, fun e he => by cases he⟩
  have hv : now.Representable := by decide
  obtain ⟨-, hfaulty, hnothingAsked⟩ :=
    resolveWithin_decision standard ⟨0⟩ request (.fixed now)
  have hempty := hnothingAsked hnothing hv
  have hfault : Candidate.FirstFault 2 (Candidate.ofWindow (Window.lookingBack now ⟨0⟩))
      (.notOrdered now now) := by
    rw [Window.lookingBack_empty hv (Or.inl rfl)]
    exact .order (Timestamp.lt_irrefl now)
  have hentries := (hfaulty _ _ _ (amountsTo_default hnothing.1) (amountsTo_default hnothing.2)
    hfault).2
  refine ⟨hnothing, hv, hempty.1, hempty.2.1 (Or.inl rfl), hentries.trans ?_⟩
  decide +kernel

end Settings

end QueryWindow
