import QueryWindow.Candidate
import QueryWindow.Request

/-!
# QueryWindow.Resolution

**From a request to a window that can be used.** An end that is missing or blank takes the place of
the default window's end. If the candidate so formed passes its check it is the answer; otherwise
the answer is the default window, and the reason is logged.

Design points:

* The decision is a pure function of the request and of one reading of the clock
  (`Settings.candidate`, `Candidate.check`). Only `Settings.resolveWithin` acts, in the state monad
  over `Surroundings`.
* A clock is the sequence of its readings, which need not be the same each time. `Surroundings`
  counts how many have been taken and holds the events that were logged.
-/

namespace QueryWindow

/-- What a resolver is set up with. -/
structure Settings where
  /-- How far the default window looks back. -/
  lookback : Lookback
  /-- The patterns for texts in requests. -/
  formats : Formats
  deriving DecidableEq

namespace Settings

/-- The settings unless others are made. -/
def standard : Settings := ⟨.standard, .standard⟩

instance : Inhabited Settings := ⟨standard⟩

/-- One end of a candidate: the default if the request has nothing there, else what was asked
for. -/
def reading (settings : Settings) (asked : Option Endpoint) (default now : Timestamp) : Reading :=
  match asked with
  | none => .valid default
  | some (.date t) => .valid t
  | some (.text content) =>
    if (Endpoint.text content).isBlank then .valid default
    else .ofText settings.formats content now

/-- The candidate for a request, texts being read now and missing ends taken from the defaults. -/
def candidate (settings : Settings) (request : Request) (now : Timestamp) (defaults : Window) :
    Candidate :=
  ⟨settings.reading request.start defaults.start now,
    settings.reading request.stop defaults.stop now⟩

end Settings

/-! ### Clock and log -/

/-- A request was rejected, and the default window taken in its place. -/
structure Event where
  /-- Why the request was rejected. -/
  reason : Rejection
  /-- The window taken in its place. -/
  fallback : Window
  deriving DecidableEq

/-- An event as it is written to the log. -/
structure LogEntry where
  /-- How important the event is. -/
  level : String
  /-- What happened. -/
  message : String
  /-- Why it happened. -/
  reason : String
  /-- What is done instead. -/
  fallback : String
  deriving DecidableEq

/-- The entry for an event. -/
def Event.entry (event : Event) : LogEntry :=
  ⟨"DEBUG", "rejected requested date range, using default window", event.reason.message,
    event.fallback.text⟩

/-- What a resolver sees of the world, and leaves in it. -/
structure Surroundings where
  /-- The readings of the clock, in order. -/
  clock : Nat → Timestamp
  /-- How many readings have been taken. -/
  clockReads : Nat
  /-- The events logged so far. -/
  log : List Event

namespace Surroundings

/-- A clock that stands still, and an empty log. -/
def fixed (now : Timestamp) : Surroundings := ⟨fun _ => now, 0, []⟩

/-- Takes the next reading of the clock. -/
def now : StateM Surroundings Timestamp :=
  modifyGet fun s => (s.clock s.clockReads, { s with clockReads := s.clockReads + 1 })

/-- Logs an event. -/
def report (event : Event) : StateM Surroundings Unit :=
  modify fun s => { s with log := s.log ++ [event] }

/-- The window that passed its check, or else the fallback, and then the reason is logged. -/
def settle (fallback : Window) : Except Rejection Window → StateM Surroundings Window
  | .ok window => return window
  | .error reason => do
    report ⟨reason, fallback⟩
    return fallback

@[simp] theorem run_settle_ok (fallback window : Window) (s : Surroundings) :
    (settle fallback (.ok window)).run s = (window, s) := rfl

@[simp] theorem run_settle_error (fallback : Window) (reason : Rejection) (s : Surroundings) :
    (settle fallback (.error reason)).run s =
      (fallback, { s with log := s.log ++ [⟨reason, fallback⟩] }) := rfl

end Surroundings

/-! ### Resolving -/

namespace Settings

/-- The window for a request, or the default window with the given lookback if the request cannot
be met. -/
def resolveWithin (settings : Settings) (lookback : Lookback) (request : Request) :
    StateM Surroundings Window := do
  -- One reading serves both the default window and the texts of the request.
  let now ← Surroundings.now
  let fallback := Window.lookingBack now lookback
  Surroundings.settle fallback ((settings.candidate request now fallback).check maxDaySpan)

/-- The window for a request, with the lookback of the settings. -/
def resolve (settings : Settings) (request : Request) : StateM Surroundings Window :=
  settings.resolveWithin settings.lookback request

/-- A resolver takes one reading of the clock, and all else follows from it. -/
theorem run_resolveWithin (settings : Settings) (lookback : Lookback) (request : Request)
    (s : Surroundings) :
    (settings.resolveWithin lookback request).run s =
      (Surroundings.settle (Window.lookingBack (s.clock s.clockReads) lookback)
        ((settings.candidate request (s.clock s.clockReads)
          (Window.lookingBack (s.clock s.clockReads) lookback)).check maxDaySpan)).run
        { s with clockReads := s.clockReads + 1 } := rfl

end Settings

/-- The window for a request, with the given lookback and all else as it is set up by itself. -/
def Request.resolve (request : Request) (lookback : Lookback) : StateM Surroundings Window :=
  Settings.standard.resolveWithin lookback request

end QueryWindow
