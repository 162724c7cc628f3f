import QueryWindow.Proofs.Calendar.Elapsed
import QueryWindow.Proofs.Formats.Reference
import QueryWindow.Proofs.Resolution.Outcomes

/-!
# QueryWindow.Proofs.Resolution.Absolute

**When a request is resolved matters only to what it leaves open.** The time of a run enters in
three places: as the reference of bare times, in the defaults for missing ends, and in the window
that is taken instead. An end that is a timestamp, a text with a date, or a text that nobody can
read needs neither of the first two, and comes to the same in every run
(`Endpoint.Absolute.exists_reading`). Two such ends have one verdict, and the third place is reached
only if it is a rejection.

Two bare times share whatever date they are put on, so that their order is that of the times of day.
-/

namespace QueryWindow

/-! ### Ends -/

namespace Endpoint

variable {formats : Formats} {content : String}

/-- An end that says on its own what it means, or that it means nothing. -/
inductive Absolute (formats : Formats) : Endpoint → Prop
  /-- A timestamp. -/
  | date (t : Timestamp) : Absolute formats (.date t)
  /-- A text with a date. -/
  | told {content : String} (hb : (text content).isBlank = false)
      (h : formats.TellsDate (trim content.toList)) : Absolute formats (.text content)
  /-- A text that no pattern accepts. -/
  | untold {content : String} (hb : (text content).isBlank = false)
      (hdate : ¬ formats.TellsDate (trim content.toList))
      (htime : ¬ formats.TellsTime (trim content.toList)) : Absolute formats (.text content)

/-- A text that only patterns for a time accept. -/
inductive BareTime (formats : Formats) : Endpoint → Prop
  | text {content : String} (htime : formats.TellsTime (trim content.toList))
      (hdate : ¬ formats.TellsDate (trim content.toList)) : BareTime formats (.text content)

theorem exists_not_blank (hb : (text content).isBlank = false) :
    ∃ c ∈ content.toList, QueryWindow.isBlank c = false := by
  have hnot : ¬ ∀ c ∈ content.toList, QueryWindow.isBlank c = true := by
    rw [← isBlank_text_iff, hb]
    exact Bool.false_ne_true
  simpa using hnot

/-- **An absolute end comes to the same at any time**, whatever the default. -/
theorem Absolute.exists_reading {asked : Endpoint} (h : asked.Absolute formats) :
    ∃ reading, ∀ now default, AmountsTo formats now default (some asked) reading := by
  cases h with
  | date t => exact ⟨.valid t, fun _ _ => .date t⟩
  | told hb h =>
      obtain ⟨t, ht⟩ := Option.isSome_iff_exists.1 (Formats.isSome_dated?_iff.2 h)
      refine ⟨.valid t, fun now default => .read ?_⟩
      rw [Formats.parse_of_not_blank formats hb now, ht]
  | @untold content hb hdate htime =>
      rw [← Formats.dated?_eq_none_iff] at hdate
      rw [← Formats.timed?_eq_none_iff] at htime
      have hread (now : Timestamp) : formats.parse content now =
          .error (.unrecognised (String.ofList (trim content.toList))) := by
        rw [Formats.parse_of_not_blank formats hb now, hdate, htime]
      exact ⟨.invalid content, fun now default => .unread (exists_not_blank hb) (hread now)⟩

/-- A bare time comes to a time of day that is always the same, on the date of now. -/
theorem BareTime.exists_time {asked : Endpoint} (h : asked.BareTime formats) :
    ∃ time : Time, ∀ now default,
      AmountsTo formats now default (some asked) (.valid ⟨now.date, time⟩) := by
  obtain @⟨content, htime, hdate⟩ := h
  have hb : (trim content.toList).isEmpty = false := by
    rw [List.isEmpty_eq_false_iff]
    intro hempty
    rw [hempty] at htime
    exact formats.not_tellsTime_nil htime
  obtain ⟨time, ht⟩ := Option.isSome_iff_exists.1 (Formats.isSome_timed?_iff.2 htime)
  rw [← Formats.dated?_eq_none_iff] at hdate
  refine ⟨time, fun now default => .read ?_⟩
  rw [Formats.parse_of_not_blank formats hb now, hdate, ht]

end Endpoint

/-! ### Two times on one date -/

theorem Timestamp.lt_of_same_date_iff {date : Date} {start stop : Time} :
    (⟨date, start⟩ : Timestamp) < ⟨date, stop⟩ ↔ start < stop := by
  simp [lt_def, Date.lt_irrefl]

theorem Window.fits_of_same_date {date : Date} {start stop : Time} (h : start < stop) :
    Window.Fits ⟨⟨date, start⟩, ⟨date, stop⟩⟩ 2 := by
  refine ⟨Timestamp.lt_of_same_date_iff.2 h, ?_⟩
  simp [Timestamp.daysUntil, Date.daysUntil_self]

/-! ### Requests -/

/-- Both ends of a request are there and have a property. -/
def Request.Both (request : Request) (p : Endpoint → Prop) : Prop :=
  (∃ start, request.start = some start ∧ p start) ∧ ∃ stop, request.stop = some stop ∧ p stop

namespace Settings

variable {settings : Settings} {request : Request}

/-- Two absolute ends have one verdict. -/
theorem keeps_or_replaces_of_absolute (h : request.Both (Endpoint.Absolute settings.formats)) :
    (∃ window, ∀ lookback s, settings.Keeps lookback request s window) ∨
      ∃ reason, ∀ lookback s, settings.Replaces lookback request s reason := by
  obtain ⟨⟨start, hstart, habsStart⟩, stop, hstop, habsStop⟩ := h
  obtain ⟨first, hfirst⟩ := habsStart.exists_reading
  obtain ⟨second, hsecond⟩ := habsStop.exists_reading
  rcases Candidate.fits_or_fault ⟨first, second⟩ 2 with ⟨window, hsame, hfits⟩ | ⟨reason, hfault⟩
  · cases hsame
    exact Or.inl ⟨window, fun lookback s =>
      keeps_of_fits (hstart ▸ hfirst _ _) (hstop ▸ hsecond _ _) hfits⟩
  · exact Or.inr ⟨reason, fun lookback s =>
      replaces_of_fault (hstart ▸ hfirst _ _) (hstop ▸ hsecond _ _) hfault⟩

/-- Two bare times are kept exactly if they are in order, on the date of each run. -/
theorem keeps_or_replaces_of_bareTime (h : request.Both (Endpoint.BareTime settings.formats)) :
    ∃ start stop : Time, ∀ lookback s,
      (start < stop → settings.Keeps lookback request s
        ⟨⟨(s.clock s.clockReads).date, start⟩, ⟨(s.clock s.clockReads).date, stop⟩⟩) ∧
      (¬ start < stop → settings.Replaces lookback request s
        (.notOrdered ⟨(s.clock s.clockReads).date, start⟩
          ⟨(s.clock s.clockReads).date, stop⟩)) := by
  obtain ⟨⟨start, hstart, hbareStart⟩, stop, hstop, hbareStop⟩ := h
  obtain ⟨first, hfirst⟩ := hbareStart.exists_time
  obtain ⟨second, hsecond⟩ := hbareStop.exists_time
  refine ⟨first, second, fun lookback s => ⟨fun hlt => ?_, fun hnot => ?_⟩⟩
  · exact keeps_of_fits (hstart ▸ hfirst _ _) (hstop ▸ hsecond _ _) (Window.fits_of_same_date hlt)
  · exact replaces_of_fault (hstart ▸ hfirst _ _) (hstop ▸ hsecond _ _)
      (.order fun hlt => hnot (Timestamp.lt_of_same_date_iff.1 hlt))

/-- **Absolute requests do not depend on when they are resolved.** If each end is a timestamp, a
text with a date, or a text that no pattern accepts, then the request is kept in every run, with the
same window, or it is replaced in every run, for the same reason and each time by the default window
of the run. If both ends are bare times, then their order alone decides whether the request is kept
in a run, and the ends are then these times on the date of the run. The lookback of the settings has
no part in a run that is given another. -/
theorem resolveWithin_absolute (settings : Settings) (request : Request) :
    (request.Both (Endpoint.Absolute settings.formats) →
      (∃ window, ∀ lookback s, settings.Keeps lookback request s window) ∨
        ∃ reason, ∀ lookback s, settings.Replaces lookback request s reason) ∧
    (request.Both (Endpoint.BareTime settings.formats) →
      ∃ start stop : Time, ∀ lookback s,
        let today := (s.clock s.clockReads).date
        (start < stop → settings.Keeps lookback request s ⟨⟨today, start⟩, ⟨today, stop⟩⟩) ∧
        (¬ start < stop → settings.Replaces lookback request s
          (.notOrdered ⟨today, start⟩ ⟨today, stop⟩))) ∧
    (∀ stored lookback, { settings with lookback := stored }.resolveWithin lookback request =
      settings.resolveWithin lookback request) :=
  ⟨keeps_or_replaces_of_absolute, keeps_or_replaces_of_bareTime, fun _ _ => rfl⟩

/-- A bare date with a timestamp of the next day is kept in every run, a text that means nothing is
replaced in every run, and from half past nine to the leap second after ten is today. -/
theorem resolveWithin_absolute_mixed :
    let noon : Timestamp := ⟨⟨2024, 3, 1⟩, ⟨43200, 0⟩⟩
    let dated : Request := ⟨some (.text " 2024-02-29 "), some (.date noon)⟩
    let unread : Request := ⟨some (.date noon), some (.text "soon")⟩
    let bare : Request := ⟨some (.text "9:30"), some (.text "10:00:60")⟩
    dated.Both (Endpoint.Absolute standard.formats) ∧
      (∀ lookback s, standard.Keeps lookback dated s ⟨⟨⟨2024, 2, 29⟩, Time.midnight⟩, noon⟩) ∧
    unread.Both (Endpoint.Absolute standard.formats) ∧
      (∀ lookback s, standard.Replaces lookback unread s (.invalidStop "soon")) ∧
    bare.Both (Endpoint.BareTime standard.formats) ∧
      (∀ lookback s, ∃ window, standard.Keeps lookback bare s window ∧
        window.start.date = (s.clock s.clockReads).date) := by
  intro noon dated unread bare
  have hdated : dated.Both (Endpoint.Absolute standard.formats) := by
    have htold := Formats.isSome_dated?_iff.1 (show (standard.formats.dated?
      (trim " 2024-02-29 ".toList)).isSome = true by decide)
    exact ⟨⟨_, rfl, .told (by decide) htold⟩, _, rfl, .date noon⟩
  have hunread : unread.Both (Endpoint.Absolute standard.formats) := by
    exact ⟨⟨_, rfl, .date noon⟩, _, rfl, .untold (by decide)
      (Formats.dated?_eq_none_iff.1 (by decide)) (Formats.timed?_eq_none_iff.1 (by decide))⟩
  have hbare : bare.Both (Endpoint.BareTime standard.formats) := by
    have hstart : Endpoint.BareTime standard.formats (.text "9:30") :=
      .text (Formats.isSome_timed?_iff.1 (by decide)) (Formats.dated?_eq_none_iff.1 (by decide))
    have hstop : Endpoint.BareTime standard.formats (.text "10:00:60") :=
      .text (Formats.isSome_timed?_iff.1 (by decide)) (Formats.dated?_eq_none_iff.1 (by decide))
    exact ⟨⟨_, rfl, hstart⟩, _, rfl, hstop⟩
  have hkept : standard.Keeps ⟨1⟩ dated (.fixed noon) ⟨⟨⟨2024, 2, 29⟩, Time.midnight⟩, noon⟩ :=
    keeps_of_fits (.read (by decide +kernel)) (.date _) (by decide)
  have hreplaced : standard.Replaces ⟨1⟩ unread (.fixed noon) (.invalidStop "soon") := rfl
  have htoday : standard.Keeps ⟨1⟩ bare (.fixed noon)
      ⟨⟨noon.date, ⟨34200, 0⟩⟩, ⟨noon.date, ⟨36059, 1000000000⟩⟩⟩ :=
    keeps_of_fits (.read (by decide +kernel)) (.read (by decide +kernel)) (by decide)
  refine ⟨hdated, ?_, hunread, ?_, hbare, ?_⟩
  · rcases (resolveWithin_absolute standard dated).1 hdated with ⟨window, h⟩ | ⟨reason, h⟩
    · rw [hkept.window_eq (h _ _)]
      exact h
    · exact absurd (h _ _) (hkept.not_replaces reason)
  · rcases (resolveWithin_absolute standard unread).1 hunread with ⟨window, h⟩ | ⟨reason, h⟩
    · exact absurd hreplaced ((h _ _).not_replaces _)
    · rw [hreplaced.reason_eq (h _ _)]
      exact h
  · obtain ⟨start, stop, h⟩ := (resolveWithin_absolute standard bare).2.1 hbare
    have hlt : start < stop := by
      by_contra hnot
      exact htoday.not_replaces _ ((h ⟨1⟩ (.fixed noon)).2 hnot)
    exact fun lookback s => ⟨_, (h lookback s).1 hlt, rfl⟩

end Settings

end QueryWindow
