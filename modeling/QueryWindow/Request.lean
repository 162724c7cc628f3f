import QueryWindow.Formats

/-!
# QueryWindow.Request

**What a caller asks for**: the two ends of a window, each of which may be missing, given as text,
or given as a timestamp. A blank text says no more than a missing end.
-/

namespace QueryWindow

/-- One end of a requested window. -/
inductive Endpoint
  /-- As a text that is yet to be read. -/
  | text (content : String)
  /-- As a timestamp. -/
  | date (t : Timestamp)
  deriving DecidableEq

/-- The end is given by a text of blanks. -/
def Endpoint.isBlank : Endpoint → Bool
  | text content => (trim content.toList).isEmpty
  | date _ => false

/-- A requested window. -/
structure Request where
  /-- Where the window starts. -/
  start : Option Endpoint
  /-- Where the window stops. -/
  stop : Option Endpoint
  deriving DecidableEq

namespace Request

/-- Nothing is asked for. -/
def empty : Request := ⟨none, none⟩

instance : Inhabited Request := ⟨empty⟩

/-- The same request with another start. -/
def withStart (request : Request) (start : Endpoint) : Request :=
  { request with start := some start }

/-- The same request with another stop. -/
def withStop (request : Request) (stop : Endpoint) : Request :=
  { request with stop := some stop }

end Request

end QueryWindow
