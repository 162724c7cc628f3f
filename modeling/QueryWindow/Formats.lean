import QueryWindow.Pattern

/-!
# QueryWindow.Formats

**The patterns by which dates in requests are accepted.** A text is tried with each pattern in turn:
first those for a whole timestamp, then those for a date, which means its midnight, then those for a
time, which is taken to be on a reference date.

Blanks around a text never matter. A text of blanks alone is no text at all, and is refused for a
reason of its own.
-/

namespace QueryWindow

/-- The pattern in which timestamps of requests and windows are written. -/
def applicationPattern : String := "%Y-%m-%d %H:%M:%S"

/-- The patterns for whole timestamps, unless others are set. -/
def standardDateTimePatterns : List String := [applicationPattern, "%Y-%m-%d %H:%M"]

/-- The patterns for dates, unless others are set. -/
def standardDatePatterns : List String := ["%Y-%m-%d"]

/-- The patterns for times, unless others are set. -/
def standardTimePatterns : List String := ["%H:%M:%S", "%H:%M"]

/-- Why a text is refused. -/
inductive ParseError
  /-- The text is blank. -/
  | empty
  /-- No pattern fits the text, given here without the blanks around it. -/
  | unrecognised (text : String)
  deriving DecidableEq

/-- The wording of a refusal. -/
def ParseError.message : ParseError → String
  | empty => "Empty date string"
  | unrecognised text => "Invalid date format: " ++ text

/-- The patterns that are accepted. -/
structure Formats where
  /-- Patterns for a whole timestamp. -/
  dateTime : List String
  /-- Patterns for a date. -/
  date : List String
  /-- Patterns for a time. -/
  time : List String
  deriving DecidableEq

namespace Formats

/-- The patterns that are accepted unless others are set. -/
def standard : Formats :=
  ⟨standardDateTimePatterns, standardDatePatterns, standardTimePatterns⟩

instance : Inhabited Formats := ⟨standard⟩

/-- Accepts whole timestamps by one pattern, and nothing else. -/
def strict (pattern : String) : Formats := ⟨[pattern], [], []⟩

/-- The pattern by which timestamps are written, the first of those for a whole timestamp. -/
def primary (formats : Formats) : String := formats.dateTime.headD applicationPattern

/-- The text of a timestamp by the primary pattern, if that pattern can be written. -/
def write? (formats : Formats) (t : Timestamp) : Option String :=
  Pattern.write? formats.primary t

/-- The timestamp for a text by the first pattern that fits. -/
def find? (formats : Formats) (cs : List Char) (reference : Timestamp) : Option Timestamp :=
  (formats.dateTime.findSome? fun pattern => Pattern.timestamp? pattern cs) <|>
    ((formats.date.findSome? fun pattern => Pattern.date? pattern cs).map fun date =>
      ⟨date, Time.midnight⟩) <|>
    ((formats.time.findSome? fun pattern => Pattern.time? pattern cs).map fun time =>
      ⟨reference.date, time⟩)

/-- The timestamp that a text means, times alone being on the date of the reference. -/
def parse (formats : Formats) (text : String) (reference : Timestamp) :
    Except ParseError Timestamp :=
  let cs := trim text.toList
  if cs.isEmpty then .error .empty
  else
    match formats.find? cs reference with
    | some t => .ok t
    | none => .error (.unrecognised (String.ofList cs))

@[simp] theorem primary_strict (pattern : String) : (strict pattern).primary = pattern := rfl

end Formats

end QueryWindow
