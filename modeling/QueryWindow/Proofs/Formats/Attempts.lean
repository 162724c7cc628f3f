import QueryWindow.Formats

/-!
# QueryWindow.Proofs.Formats.Attempts

**Reading a text, one attempt after the other.** An attempt is a pattern with what it is to read: a
timestamp, a date or a time. The three lists of patterns make one list of attempts, and a text means
what the first of them finds that finds anything (`Formats.find?_eq_findSome?`). If no two attempts
find something in a text, it means what any of them finds (`Formats.find?_eq_some_iff`), wherever
that one stands.
-/

namespace QueryWindow

/-- What a text is to be read as. -/
inductive Aim
  | timestamp
  | date
  | time
  deriving DecidableEq

variable {cs : List Char} {reference t : Timestamp} {pattern : String} {aim : Aim}

namespace Aim

/-- The pattern reads the text as what is asked for. -/
def Accepts (pattern : String) (cs : List Char) : Aim → Prop
  | timestamp => (Pattern.timestamp? pattern cs).isSome = true
  | date => (Pattern.date? pattern cs).isSome = true
  | time => (Pattern.time? pattern cs).isSome = true

/-- The timestamp that the pattern finds in the text, if it is read as what is asked for. -/
def read? (reference : Timestamp) (pattern : String) (cs : List Char) : Aim → Option Timestamp
  | timestamp => Pattern.timestamp? pattern cs
  | date => (Pattern.date? pattern cs).map fun date => ⟨date, Time.midnight⟩
  | time => (Pattern.time? pattern cs).map fun time => ⟨reference.date, time⟩

theorem accepts_of_read? (h : aim.read? reference pattern cs = some t) :
    aim.Accepts pattern cs := by
  cases aim with
  | timestamp => exact Option.isSome_of_eq_some h
  | date =>
      obtain ⟨found, hfound, -⟩ := Option.map_eq_some_iff.1 h
      exact Option.isSome_of_eq_some hfound
  | time =>
      obtain ⟨found, hfound, -⟩ := Option.map_eq_some_iff.1 h
      exact Option.isSome_of_eq_some hfound

end Aim

namespace Formats

variable {formats : Formats}

/-- The patterns that are tried for what is asked. -/
def patterns (formats : Formats) : Aim → List String
  | .timestamp => formats.dateTime
  | .date => formats.date
  | .time => formats.time

/-- All that is tried, in order. -/
def attempts (formats : Formats) : List (Aim × String) :=
  formats.dateTime.map (Aim.timestamp, ·) ++
    (formats.date.map (Aim.date, ·) ++ formats.time.map (Aim.time, ·))

theorem mem_attempts : (aim, pattern) ∈ formats.attempts ↔ pattern ∈ formats.patterns aim := by
  cases aim <;> simp [attempts, patterns]

/-- **The first attempt that finds something decides.** -/
theorem find?_eq_findSome? (formats : Formats) (cs : List Char) (reference : Timestamp) :
    formats.find? cs reference =
      formats.attempts.findSome? fun attempt => attempt.1.read? reference attempt.2 cs := by
  simp only [find?, attempts, List.findSome?_append, List.findSome?_map, List.map_findSome?,
    Option.orElse_eq_orElse, Option.orElse_eq_or]
  rfl

theorem exists_of_find? (h : formats.find? cs reference = some t) :
    ∃ aim : Aim, ∃ pattern ∈ formats.patterns aim, aim.read? reference pattern cs = some t := by
  rw [find?_eq_findSome?] at h
  obtain ⟨⟨aim, pattern⟩, hmem, hread⟩ := List.exists_of_findSome?_eq_some h
  exact ⟨aim, pattern, mem_attempts.1 hmem, hread⟩

/-- No two attempts find something in the text. -/
def Exclusive (formats : Formats) (cs : List Char) : Prop :=
  ∀ aim aim' : Aim, ∀ pattern ∈ formats.patterns aim, ∀ other ∈ formats.patterns aim',
    aim.Accepts pattern cs → aim'.Accepts other cs → aim = aim' ∧ pattern = other

/-- **Any attempt that finds something decides**, if no two of them do. -/
theorem find?_eq_some_iff (h : formats.Exclusive cs) : formats.find? cs reference = some t ↔
    ∃ aim : Aim, ∃ pattern ∈ formats.patterns aim, aim.read? reference pattern cs = some t := by
  refine ⟨exists_of_find?, fun hfound => ?_⟩
  obtain ⟨aim, pattern, hmem, hread⟩ := hfound
  have hsome : (formats.find? cs reference).isSome = true := by
    rw [find?_eq_findSome?]
    exact List.findSome?_isSome_iff.2
      ⟨(aim, pattern), mem_attempts.2 hmem, Option.isSome_of_eq_some hread⟩
  obtain ⟨u, hu⟩ := Option.isSome_iff_exists.1 hsome
  -- What is found first can only be found by the attempt that is known to find something.
  obtain ⟨aim', other, hmem', hread'⟩ := exists_of_find? hu
  obtain ⟨rfl, rfl⟩ := h aim aim' pattern hmem other hmem' (Aim.accepts_of_read? hread)
    (Aim.accepts_of_read? hread')
  rw [hu, ← hread, ← hread']

end Formats

end QueryWindow
