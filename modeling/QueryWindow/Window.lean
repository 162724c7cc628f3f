import QueryWindow.Formats
import QueryWindow.Lookback

/-!
# QueryWindow.Window

**Windows of time**, and the default window that looks back from now. A window is any two
timestamps; whether it may be used is for `QueryWindow.Candidate` to say.
-/

namespace QueryWindow

/-- The calendar days from the date of one timestamp to that of another. -/
def Timestamp.daysUntil (start stop : Timestamp) : Int := start.date.daysUntil stop.date

/-- The text of a timestamp in the application's pattern. -/
def Timestamp.applicationText (t : Timestamp) : String :=
  (Pattern.write? applicationPattern t).getD ""

/-- A window of time. -/
structure Window where
  /-- Where the window starts. -/
  start : Timestamp
  /-- Where the window stops. -/
  stop : Timestamp
  deriving DecidableEq

namespace Window

/-- The window that ends now and reaches back as far as the lookback says, or to the first
timestamp if there is none that early. -/
def lookingBack (now : Timestamp) (lookback : Lookback) : Window :=
  ⟨(now.back? lookback.nanos).getD Timestamp.first, now⟩

/-- The time from start to stop in nanoseconds. -/
def elapsed (window : Window) : Int := window.start.elapsed window.stop

/-- The number of calendar days between start and stop, in whichever order they stand. -/
def daySpan (window : Window) : Nat := (window.start.daysUntil window.stop).natAbs

/-- The text of a window: both ends in the application's pattern, with a slash between them. -/
def text (window : Window) : String :=
  window.start.applicationText ++ "/" ++ window.stop.applicationText

@[simp] theorem stop_lookingBack (now : Timestamp) (lookback : Lookback) :
    (lookingBack now lookback).stop = now := rfl

end Window

end QueryWindow
