import QueryWindow.Proofs.Formats.Reference
import QueryWindow.Proofs.Resolution.Outcomes

/-!
# QueryWindow.Proofs.Resolution.Spacing

**Blanks around a text change nothing.** What a text means depends on what trimming leaves of it
(`Formats.parse_congr`), and so does whether it counts as missing. The two ends of a request may
therefore be padded, left out where they are blank, or given as blanks where they are missing
(`Endpoint.Respaced`): each of them comes to the same timestamp, or to none.

One thing does tell such requests apart. A text that means nothing is kept as it came, so that two
rejections for it differ in the text that they show (`Rejection.Alike`) and in nothing else.
-/

namespace QueryWindow

/-! ### Texts -/

namespace Formats

variable {formats : Formats} {content other text : String} {reference : Timestamp}

/-- **What a text means depends on what trimming leaves of it.** -/
theorem parse_congr (h : trim content.toList = trim other.toList) :
    formats.parse content reference = formats.parse other reference := by
  unfold parse
  rw [h]

theorem trim_toList_append {front back : String} (hfront : ∀ c ∈ front.toList, isBlank c = true)
    (hback : ∀ c ∈ back.toList, isBlank c = true) (content : String) :
    trim (front ++ content ++ back).toList = trim content.toList := by
  rw [String.toList_append, String.toList_append, List.append_assoc, trim_append hfront hback]

/-- A refusal says whether the text was blank, and if it was not, which text was left of it. -/
theorem parse_eq_error {error : ParseError} (h : formats.parse content reference = .error error) :
    (error = .empty ∧ ∀ c ∈ content.toList, isBlank c = true) ∨
      (error = .unrecognised (String.ofList (trim content.toList)) ∧
        ¬ ∀ c ∈ content.toList, isBlank c = true) := by
  by_cases hblank : ∀ c ∈ content.toList, isBlank c = true
  · rw [parse_of_blank formats reference hblank] at h
    cases h
    exact Or.inl ⟨rfl, hblank⟩
  · have hrest : (trim content.toList).isEmpty = false := by
      rw [List.isEmpty_eq_false_iff]
      exact fun hnil => hblank (trim_eq_nil_iff.1 hnil)
    rw [parse_of_not_blank formats hrest] at h
    split at h
    · cases h
    · cases h
    · cases h
      exact Or.inr ⟨rfl, hblank⟩

theorem parse_eq_empty_iff : formats.parse content reference = .error .empty ↔
    ∀ c ∈ content.toList, isBlank c = true := by
  refine ⟨fun h => ?_, parse_of_blank formats reference⟩
  rcases parse_eq_error h with ⟨-, hblank⟩ | ⟨herror, -⟩
  · exact hblank
  · cases herror

theorem toList_of_unrecognised
    (h : formats.parse content reference = .error (.unrecognised text)) :
    text.toList = trim content.toList := by
  rcases parse_eq_error h with ⟨herror, -⟩ | ⟨herror, -⟩
  · cases herror
  · cases herror
    exact String.toList_ofList

end Formats

/-! ### Readings and rejections that differ in texts -/

/-- Two readings are of the same timestamp, or of texts that could not be read. -/
inductive Reading.Alike : Reading → Reading → Prop
  | valid (t : Timestamp) : Alike (.valid t) (.valid t)
  | invalid (text other : String) : Alike (.invalid text) (.invalid other)

/-- Two rejections are of the same kind, and the same but for the text that could not be read. -/
inductive Rejection.Alike : Rejection → Rejection → Prop
  | invalidStart (text other : String) : Alike (.invalidStart text) (.invalidStart other)
  | invalidStop (text other : String) : Alike (.invalidStop text) (.invalidStop other)
  | notOrdered (start stop : Timestamp) : Alike (.notOrdered start stop) (.notOrdered start stop)
  | spanExceeded (days limit : Int) : Alike (.spanExceeded days limit) (.spanExceeded days limit)

theorem Reading.Alike.refl (reading : Reading) : reading.Alike reading := by
  cases reading with
  | valid t => exact .valid t
  | invalid text => exact .invalid text text

namespace Reading

variable {formats : Formats} {content other text : String} {reference : Timestamp}

/-- A text that is refused is kept as it came. -/
theorem ofText_eq_invalid_iff : ofText formats content reference = .invalid text ↔
    text = content ∧ ∃ error, formats.parse content reference = .error error := by
  unfold ofText
  cases formats.parse content reference <;> simp [eq_comm]

theorem alike_ofText (h : trim content.toList = trim other.toList) :
    (ofText formats content reference).Alike (ofText formats other reference) := by
  unfold ofText
  rw [Formats.parse_congr h]
  cases formats.parse other reference with
  | ok t => exact .valid t
  | error error => exact .invalid content other

end Reading

namespace Candidate

variable {candidate other : Candidate} {limit : Int}

/-- Both ends are alike. -/
def Alike (candidate other : Candidate) : Prop :=
  candidate.start.Alike other.start ∧ candidate.stop.Alike other.stop

/-- Where no text is left to show, alike is the same. -/
theorem Alike.eq_ofWindow {window : Window} (h : candidate.Alike other)
    (hsame : candidate = ofWindow window) : other = ofWindow window := by
  obtain ⟨start, stop⟩ := other
  subst hsame
  obtain ⟨hstart, hstop⟩ := h
  cases hstart
  cases hstop
  rfl

/-- The first fault stays, whatever the texts are that could not be read. -/
theorem FirstFault.alike {reason : Rejection} (h : FirstFault limit candidate reason)
    (halike : candidate.Alike other) :
    ∃ reason', FirstFault limit other reason' ∧ reason.Alike reason' := by
  obtain ⟨start', stop'⟩ := other
  obtain ⟨hstart, hstop⟩ := halike
  cases h with
  | start =>
      cases hstart
      exact ⟨_, .start, .invalidStart _ _⟩
  | stop =>
      cases hstart
      cases hstop
      exact ⟨_, .stop, .invalidStop _ _⟩
  | order hnot =>
      cases hstart
      cases hstop
      exact ⟨_, .order hnot, .notOrdered _ _⟩
  | span hlt hspan =>
      cases hstart
      cases hstop
      exact ⟨_, .span hlt hspan, .spanExceeded _ _⟩

end Candidate

/-! ### Requests -/

/-- An end is padded with blanks, or blanks take the place of a missing end or the other way round. -/
inductive Endpoint.Respaced : Option Endpoint → Option Endpoint → Prop
  /-- Nothing is changed. -/
  | same (asked : Option Endpoint) : Respaced asked asked
  /-- Blanks are put around a text. -/
  | padded {front content back : String} (hfront : ∀ c ∈ front.toList, QueryWindow.isBlank c = true)
      (hback : ∀ c ∈ back.toList, QueryWindow.isBlank c = true) :
      Respaced (some (.text content)) (some (.text (front ++ content ++ back)))
  /-- Blanks are given for a missing end. -/
  | blanked {content : String} (h : ∀ c ∈ content.toList, QueryWindow.isBlank c = true) :
      Respaced none (some (.text content))
  /-- Blanks are left out. -/
  | dropped {content : String} (h : ∀ c ∈ content.toList, QueryWindow.isBlank c = true) :
      Respaced (some (.text content)) none

/-- Both ends of a request are respaced. -/
def Request.Respaced (request other : Request) : Prop :=
  Endpoint.Respaced request.start other.start ∧ Endpoint.Respaced request.stop other.stop

namespace Settings

variable {asked asked' : Option Endpoint} {request other : Request}

/-- **A respaced end comes to the same**, but for a text that could not be read. -/
theorem alike_reading (settings : Settings) (default now : Timestamp)
    (h : Endpoint.Respaced asked asked') :
    (settings.reading asked default now).Alike (settings.reading asked' default now) := by
  cases h with
  | same => exact .refl _
  | @padded front content back hfront hback =>
      have htrim := Formats.trim_toList_append hfront hback content
      rw [reading_text, reading_text, Endpoint.isBlank, Endpoint.isBlank, htrim]
      split
      · exact .valid default
      · exact Reading.alike_ofText htrim.symm
  | blanked hblank =>
      rw [reading_of_amountsTo .missing, reading_of_amountsTo (.blank hblank)]
      exact .valid default
  | dropped hblank =>
      rw [reading_of_amountsTo .missing, reading_of_amountsTo (.blank hblank)]
      exact .valid default

theorem alike_candidate (settings : Settings) (now : Timestamp) (defaults : Window)
    (h : request.Respaced other) :
    (settings.candidate request now defaults).Alike (settings.candidate other now defaults) :=
  ⟨settings.alike_reading defaults.start now h.1, settings.alike_reading defaults.stop now h.2⟩

/-- Respaced requests are both kept, or both replaced for a reason of one kind. -/
theorem keeps_or_replaces_of_respaced (settings : Settings) (lookback : Lookback)
    (h : request.Respaced other) (s : Surroundings) :
    (∃ window, settings.Keeps lookback request s window ∧ settings.Keeps lookback other s window) ∨
      ∃ reason reason', settings.Replaces lookback request s reason ∧
        settings.Replaces lookback other s reason' ∧ reason.Alike reason' := by
  have halike := settings.alike_candidate (s.clock s.clockReads)
    (Window.lookingBack (s.clock s.clockReads) lookback) h
  rcases Candidate.fits_or_fault (settings.candidate request (s.clock s.clockReads)
    (Window.lookingBack (s.clock s.clockReads) lookback)) 2 with
    ⟨window, hsame, hfits⟩ | ⟨reason, hfault⟩
  · exact Or.inl ⟨window, keeps_of_candidate hsame hfits,
      keeps_of_candidate (halike.eq_ofWindow hsame) hfits⟩
  · obtain ⟨reason', hfault', hkind⟩ := hfault.alike halike
    exact Or.inr ⟨reason, reason', replaces_of_candidate hfault, replaces_of_candidate hfault', hkind⟩

/-- A text that could not be read is the text of the end, and is not blank. -/
theorem text_of_reading {settings : Settings} {default now : Timestamp} {text : String}
    (h : settings.reading asked default now = .invalid text) :
    asked = some (.text text) ∧ ¬ ∀ c ∈ text.toList, isBlank c = true := by
  cases reading_eq_iff.1 h with
  | unread hnot =>
      obtain ⟨c, hc, hsolid⟩ := hnot
      exact ⟨rfl, fun hblank => Bool.false_ne_true (hsolid.symm.trans (hblank c hc))⟩

/-- **Blanks around a text never change what comes of it.** With blanks around it, a text is read
as it is without them, or refused with the same error. The error says that the text is empty exactly
if it has blanks only, which is when it counts as missing; any other error has the text without the
blanks around it, while a reading keeps the text as it came. Requests that differ in blanks around
texts, or have blanks where the other has nothing, are both kept, with one window, or both replaced
for reasons that differ at most in such a text. And a text in a candidate that could not be read is
that of the end, and not blank. -/
theorem resolveWithin_respaced (settings : Settings) :
    (∀ (front content back : String) (now : Timestamp),
      (∀ c ∈ front.toList, isBlank c = true) → (∀ c ∈ back.toList, isBlank c = true) →
        settings.formats.parse (front ++ content ++ back) now =
          settings.formats.parse content now) ∧
    (∀ (content : String) (now : Timestamp),
      (settings.formats.parse content now = .error .empty ↔
        ∀ c ∈ content.toList, isBlank c = true) ∧
      ((Endpoint.text content).isBlank = true ↔ ∀ c ∈ content.toList, isBlank c = true) ∧
      (∀ text, settings.formats.parse content now = .error (.unrecognised text) →
        ∀ core, IsTrimmed content.toList core ↔ core = text.toList) ∧
      (∀ text, Reading.ofText settings.formats content now = .invalid text ↔
        text = content ∧ ∃ error, settings.formats.parse content now = .error error)) ∧
    (∀ (request other : Request) (lookback : Lookback) (s : Surroundings),
      request.Respaced other →
        (∃ window, settings.Keeps lookback request s window ∧
          settings.Keeps lookback other s window) ∨
        ∃ reason reason', settings.Replaces lookback request s reason ∧
          settings.Replaces lookback other s reason' ∧ reason.Alike reason') ∧
    (∀ (request : Request) (now : Timestamp) (defaults : Window) (text : String),
      ((settings.candidate request now defaults).start = .invalid text →
        request.start = some (.text text) ∧ ¬ ∀ c ∈ text.toList, isBlank c = true) ∧
      ((settings.candidate request now defaults).stop = .invalid text →
        request.stop = some (.text text) ∧ ¬ ∀ c ∈ text.toList, isBlank c = true)) := by
  refine ⟨fun front content back now hfront hback => ?_, fun content now => ⟨?_, ?_, ?_, ?_⟩,
    fun request other lookback s h => ?_, fun request now defaults text => ⟨?_, ?_⟩⟩
  · exact Formats.parse_congr (Formats.trim_toList_append hfront hback content)
  · exact Formats.parse_eq_empty_iff
  · exact isBlank_text_iff
  · intro text h core
    rw [← trim_eq_iff, Formats.toList_of_unrecognised h, eq_comm]
  · exact fun text => Reading.ofText_eq_invalid_iff
  · exact settings.keeps_or_replaces_of_respaced lookback h s
  · exact text_of_reading
  · exact text_of_reading

/-- From half past nine to now, whatever blanks are around the text and in place of the stop. A text
that means nothing is refused without the blanks around it, and kept with them where a candidate has
it for its start. -/
theorem resolveWithin_respaced_padded :
    let now : Timestamp := ⟨⟨2024, 3, 1⟩, ⟨43200, 0⟩⟩
    let window : Window := ⟨⟨now.date, ⟨34200, 0⟩⟩, now⟩
    let bare : Request := ⟨some (.text "9:30"), none⟩
    let spaced : Request := ⟨some (.text ("\t" ++ "9:30" ++ "\u3000")), some (.text " ")⟩
    let unread : Request := ⟨some (.text "soon"), none⟩
    let spacedUnread : Request := ⟨some (.text (" " ++ "soon" ++ "\n")), none⟩
    (bare.Respaced spaced ∧ standard.Keeps ⟨1⟩ spaced (.fixed now) window) ∧
      unread.Respaced spacedUnread ∧
      (∃ text, standard.Replaces ⟨1⟩ spacedUnread (.fixed now) (.invalidStart text)) ∧
      standard.formats.parse (" " ++ "soon" ++ "\n") now = .error (.unrecognised "soon") ∧
      (standard.candidate spacedUnread now window).start = .invalid (" " ++ "soon" ++ "\n") ∧
      ¬ ∀ c ∈ (" " ++ "soon" ++ "\n").toList, isBlank c = true := by
  intro now window bare spaced unread spacedUnread
  have htab : ∀ c ∈ "\t".toList, isBlank c = true := isBlank_text_iff.1 (by decide)
  have hwide : ∀ c ∈ "\u3000".toList, isBlank c = true := isBlank_text_iff.1 (by decide)
  have hspace : ∀ c ∈ " ".toList, isBlank c = true := isBlank_text_iff.1 (by decide)
  have hline : ∀ c ∈ "\n".toList, isBlank c = true := isBlank_text_iff.1 (by decide)
  have hbare : bare.Respaced spaced := ⟨.padded htab hwide, .blanked hspace⟩
  have hunread : unread.Respaced spacedUnread := ⟨.padded hspace hline, .same none⟩
  obtain ⟨hparse, -, hruns, hraw⟩ := resolveWithin_respaced standard
  have hkept : standard.Keeps ⟨1⟩ bare (.fixed now) window :=
    keeps_of_fits (.read (by decide +kernel)) .missing (by decide)
  have hreplaced : standard.Replaces ⟨1⟩ unread (.fixed now) (.invalidStart "soon") := rfl
  have hstart : (standard.candidate spacedUnread now window).start =
      .invalid (" " ++ "soon" ++ "\n") := rfl
  refine ⟨⟨hbare, ?_⟩, hunread, ?_, ?_, hstart, ((hraw spacedUnread now window _).1 hstart).2⟩
  · rcases hruns bare spaced ⟨1⟩ (.fixed now) hbare with ⟨kept, h, h'⟩ | ⟨reason, -, h, -⟩
    · rw [hkept.window_eq h]
      exact h'
    · exact absurd h (hkept.not_replaces reason)
  · rcases hruns unread spacedUnread ⟨1⟩ (.fixed now) hunread with
      ⟨kept, h, -⟩ | ⟨reason, reason', h, h', halike⟩
    · exact absurd hreplaced (h.not_replaces _)
    · obtain rfl := hreplaced.reason_eq h
      cases halike
      exact ⟨_, h'⟩
  · rw [hparse " " "soon" "\n" now hspace hline]
    decide +kernel

end Settings

end QueryWindow
