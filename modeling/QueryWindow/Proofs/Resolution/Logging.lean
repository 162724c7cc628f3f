import QueryWindow.Proofs.Candidate.Messages
import QueryWindow.Proofs.Resolution.Decision

/-!
# QueryWindow.Proofs.Resolution.Logging

**What a run logs can be read and believed** (`messages_legible`). The entry for an event has no
character that breaks a line or turns the direction of a text around, since all of it is printable.
If an end could not be read, its text is quoted in the entry as it was sent, and can be had back
from there. Two rejections that are worded alike are the same.
-/

namespace QueryWindow

/-- A control character, the end of a line or a paragraph, or an override of the direction in which
a text runs. -/
def Disrupts (c : Char) : Prop :=
  c.toNat ≤ 0x1F ∨ (0x7F ≤ c.toNat ∧ c.toNat ≤ 0x9F) ∨ c.toNat = 0x2028 ∨ c.toNat = 0x2029 ∨
    c.toNat = 0x202E

/-- Printable characters disrupt nothing. -/
theorem not_disrupts_of_isPrintable {c : Char} (h : isPrintable c = true) : ¬ Disrupts c := by
  simp only [isPrintable, Bool.not_eq_true', Bool.or_eq_false_iff] at h
  obtain ⟨⟨⟨⟨⟨⟨hcontrol, hseparator⟩, hformatting⟩, -⟩, -⟩, -⟩, -⟩ := h
  have hlow : ¬ c.toNat < 0x20 ∧ ¬ (0x7F ≤ c.toNat ∧ c.toNat ≤ 0x9F) := by
    simpa [isControl] using hcontrol
  rintro (hc | hc | hc | hc | hc)
  · omega
  · exact hlow.2 hc
  · rw [isSeparator, hc] at hseparator
    exact absurd hseparator (by decide)
  · rw [isSeparator, hc] at hseparator
    exact absurd hseparator (by decide)
  · rw [isFormatting, hc] at hformatting
    exact absurd hformatting (by decide)

/-- A message ends with a text in quotes, which are all that follows its opening. What is between
the quotes is read as that text. -/
def Quotes (message opening content : String) : Prop :=
  ∃ inside, message.toList = opening.toList ++ '"' :: (inside ++ ['"']) ∧
    Quoted.decode inside = some content.toList

namespace Rejection

theorem quotes_message_invalidStart (text : String) :
    Quotes (invalidStart text).message "Invalid range start: " text :=
  ⟨_, by rw [toList_message_invalidStart, Quoted.toList_quote], Quoted.decode_encode _⟩

theorem quotes_message_invalidStop (text : String) :
    Quotes (invalidStop text).message "Invalid range end: " text :=
  ⟨_, by rw [toList_message_invalidStop, Quoted.toList_quote], Quoted.decode_encode _⟩

end Rejection

/-- An end that could not be read is a text, and is kept as it was sent. -/
theorem AmountsTo.eq_text {formats : Formats} {now default : Timestamp} {asked : Option Endpoint}
    {text : String} (h : AmountsTo formats now default asked (.invalid text)) :
    asked = some (.text text) := by
  cases h
  rfl

namespace Settings

variable {settings : Settings} {lookback : Lookback} {request : Request} {s : Surroundings}

/-- A text that a logged event names is that of an end of the request. -/
theorem sent_of_mem_logged {window : Window} {after : Surroundings} {logged : List Event}
    (hrun : (settings.resolveWithin lookback request).run s = (window, after))
    (hlogged : after.log = s.log ++ logged) {event : Event} (hevent : event ∈ logged) :
    (∀ text, event.reason = .invalidStart text → request.start = some (.text text)) ∧
      ∀ text, event.reason = .invalidStop text → request.stop = some (.text text) := by
  obtain ⟨events, hdecides, rfl⟩ := run_resolveWithin_iff.1 hrun
  obtain rfl : events = logged := List.append_cancel_left hlogged
  cases hdecides with
  | kept => cases hevent
  | replaced hstart hstop hfault =>
      obtain rfl := List.mem_singleton.1 hevent
      cases hfault with
      | start => exact ⟨fun text heq => by cases heq; exact hstart.eq_text, nofun⟩
      | stop => exact ⟨nofun, fun text heq => by cases heq; exact hstop.eq_text⟩
      | order => exact ⟨nofun, nofun⟩
      | span => exact ⟨nofun, nofun⟩

end Settings

theorem Event.printable_entry (event : Event) :
    Printable (event.entry.reason.toList ++ event.entry.fallback.toList) :=
  event.reason.printable_message.append event.fallback.printable_text

/-- **Messages can be told apart, and a log can be trusted.** Rejections of the same wording are the
same, if the timestamps they show are well-formed. Whatever a run logs has no character that
disrupts the log, and a text that could not be read is found in it between quotes, as the request
had it. -/
theorem messages_legible :
    (∀ a b : Rejection, a.Valid → b.Valid → a.message = b.message → a = b) ∧
    ∀ (settings : Settings) (lookback : Lookback) (request : Request) (s after : Surroundings)
      (window : Window) (logged : List Event),
      (settings.resolveWithin lookback request).run s = (window, after) →
      after.log = s.log ++ logged → ∀ event ∈ logged,
        (∀ c ∈ event.entry.reason.toList ++ event.entry.fallback.toList, ¬ Disrupts c) ∧
        (∀ text, event.reason = .invalidStart text → request.start = some (.text text) ∧
          Quotes event.entry.reason "Invalid range start: " text) ∧
        ∀ text, event.reason = .invalidStop text → request.stop = some (.text text) ∧
          Quotes event.entry.reason "Invalid range end: " text := by
  refine ⟨fun a b => Rejection.eq_of_message_eq, ?_⟩
  intro settings lookback request s after window logged hrun hlogged event hevent
  obtain ⟨hstart, hstop⟩ := Settings.sent_of_mem_logged hrun hlogged hevent
  refine ⟨fun c hc => not_disrupts_of_isPrintable (event.printable_entry c hc), ?_, ?_⟩
  · intro text hreason
    refine ⟨hstart text hreason, ?_⟩
    rw [Event.entry, hreason]
    exact Rejection.quotes_message_invalidStart text
  · intro text hreason
    refine ⟨hstop text hreason, ?_⟩
    rw [Event.entry, hreason]
    exact Rejection.quotes_message_invalidStop text

/-- A text that would turn the rest of its line around and start another one is logged by its code
points. Two moments of one leap second are told apart by the last digit. -/
theorem messages_legible_override :
    let settings : Settings := ⟨⟨1⟩, ⟨[], [], []⟩⟩
    let now : Timestamp := ⟨⟨2016, 12, 31⟩, ⟨86399, 1000000001⟩⟩
    let next : Timestamp := ⟨⟨2016, 12, 31⟩, ⟨86399, 1000000002⟩⟩
    let hostile : String := "\u202E\"\\\n"
    let request : Request := ⟨some (.text hostile), none⟩
    let event : Event := ⟨.invalidStart hostile, Window.lookingBack now ⟨1⟩⟩
    ((settings.resolveWithin ⟨1⟩ request).run (.fixed now)).2.log = [event] ∧
      event.entry.reason = "Invalid range start: \"\\u\x7b202e\x7d\\\"\\\\\\n\"" ∧
      (∀ c ∈ event.entry.reason.toList ++ event.entry.fallback.toList, ¬ Disrupts c) ∧
      Quotes event.entry.reason "Invalid range start: " hostile ∧
      Rejection.message (.notOrdered next now) ≠ Rejection.message (.notOrdered next next) := by
  intro settings now next hostile request event
  have hlog : ((settings.resolveWithin ⟨1⟩ request).run (.fixed now)).2.log = [event] := by
    decide +kernel
  have hnow : now.Valid := by decide
  have hnext : next.Valid := by decide
  obtain ⟨hdistinct, hlogged⟩ := messages_legible
  obtain ⟨hsafe, hstart, -⟩ := hlogged settings ⟨1⟩ request (.fixed now) _ _ [event] rfl hlog event
    List.mem_cons_self
  refine ⟨hlog, by decide +kernel, hsafe, (hstart hostile rfl).2, fun hmessage => ?_⟩
  exact absurd (hdistinct (.notOrdered next now) (.notOrdered next next) ⟨hnext, hnow⟩
    ⟨hnext, hnext⟩ hmessage) (by decide)

end QueryWindow
