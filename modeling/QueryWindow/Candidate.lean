import QueryWindow.Text.Quoted
import QueryWindow.Window

/-!
# QueryWindow.Candidate

**Checking a window before it is used.** The ends of a candidate may still be texts that nobody
could read. A candidate becomes a window if both ends were read, the start is before the stop, and
the calendar days between them are not too many.

Each `Rejection` is a cause; `Rejection.message` has the wording of all of them.
-/

namespace QueryWindow

/-- What came of reading one end of a window. -/
inductive Reading
  /-- The timestamp that was read. -/
  | valid (t : Timestamp)
  /-- The text that could not be read, as it was given. -/
  | invalid (text : String)
  deriving DecidableEq

namespace Reading

/-- What comes of reading a text. -/
def ofText (formats : Formats) (text : String) (reference : Timestamp) : Reading :=
  match formats.parse text reference with
  | .ok t => valid t
  | .error _ => invalid text

/-- The timestamp that was read, if any. -/
def value? : Reading → Option Timestamp
  | valid t => some t
  | invalid _ => none

/-- A timestamp was read. -/
def isValid (reading : Reading) : Bool := reading.value?.isSome

end Reading

/-- Why a candidate is rejected. -/
inductive Rejection
  /-- The start could not be read. -/
  | invalidStart (text : String)
  /-- The stop could not be read. -/
  | invalidStop (text : String)
  /-- The start is not before the stop. -/
  | notOrdered (start stop : Timestamp)
  /-- Start and stop are too many calendar days apart. -/
  | spanExceeded (days limit : Int)
  deriving DecidableEq

/-- The wording of a rejection. -/
def Rejection.message : Rejection → String
  | invalidStart text => "Invalid range start: " ++ Quoted.quote text
  | invalidStop text => "Invalid range end: " ++ Quoted.quote text
  | notOrdered start stop =>
    "Invalid date range: from (" ++ start.shownText ++ ") is not before to (" ++
      stop.shownText ++ ")"
  | spanExceeded days limit =>
    "Date range spans " ++ String.ofList (Digits.ofInt days) ++ " days (at most " ++
      String.ofList (Digits.ofInt limit) ++ " allowed)"

/-- The greatest number of calendar days between the ends of a requested window. -/
def maxDaySpan : Int := 2

/-- A window whose ends may not have been read. -/
structure Candidate where
  /-- What was read for the start. -/
  start : Reading
  /-- What was read for the stop. -/
  stop : Reading
  deriving DecidableEq

namespace Candidate

/-- A window as a candidate. -/
def ofWindow (window : Window) : Candidate := ⟨.valid window.start, .valid window.stop⟩

/-- Both ends were read, and the start is before the stop. -/
def ordered (candidate : Candidate) : Except Rejection Window :=
  match candidate.start, candidate.stop with
  | .invalid text, _ => .error (.invalidStart text)
  | .valid _, .invalid text => .error (.invalidStop text)
  | .valid start, .valid stop =>
    if start < stop then .ok ⟨start, stop⟩ else .error (.notOrdered start stop)

/-- The candidate is in order, and its calendar days are within a limit. -/
def check (candidate : Candidate) (limit : Int) : Except Rejection Window :=
  candidate.ordered.bind fun window =>
    if window.daySpan ≤ limit then .ok window else .error (.spanExceeded window.daySpan limit)

/-- The number of calendar days between the ends, if both were read. -/
def daySpan? (candidate : Candidate) : Option Nat :=
  candidate.start.value?.bind fun start =>
    candidate.stop.value?.map fun stop => (start.daysUntil stop).natAbs

/-- The candidate is in order, and a further condition holds. -/
def isValid (candidate : Candidate) (condition : Bool) : Bool :=
  candidate.ordered.toBool && condition

/-- The candidate is in order, and its calendar days are within the limit for requests. -/
def isValidWithinLimit (candidate : Candidate) : Bool :=
  candidate.isValid (candidate.daySpan?.any fun days => days ≤ maxDaySpan)

end Candidate

end QueryWindow
