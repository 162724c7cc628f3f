import QueryWindow.Json.Decode
import QueryWindow.Resolution

/-!
# QueryWindow.Interchange

**The JSON forms of lookbacks, requests, windows and settings.** Timestamps of a request travel as
texts in the application's pattern, and come back as texts that are yet to be read. Timestamps of a
window travel in a form that loses nothing.

Design points:

* A request leaves out the ends it has not. Of requests, formats and settings every field may be
  missing; it then has its standard value. A window must have both ends.
* Every decoder serves values and texts alike; `ofJson` and `ofJsonText` differ in the order in
  which members are visited, and a text must moreover end with the value.
-/

namespace QueryWindow

variable {φ : Type}

/-- Decodes a whole JSON value. -/
def ofJson {α : Type} (decode : MemberOrder → Json Empty → Decoded Empty α) (value : Json Empty) :
    Decoded Empty α :=
  decode .byName value

/-- Decodes a JSON text. -/
def ofJsonText {α : Type} (decode : MemberOrder → Json Fault → Decoded Fault α) (text : String) :
    Decoded Fault α := do
  let document := JsonDocument.read text
  let result ← decode .asWritten document.value
  if document.continued then throw (.unreadable .malformed) else return result

/-! ### Lookbacks -/

namespace Lookback

/-- A lookback is written as its number of milliseconds. -/
def toJson (lookback : Lookback) : Json φ := .number (.integer lookback.millis.toNat)

/-- Reads a lookback. -/
def decode (_ : MemberOrder) (value : Json φ) : Decoded φ Lookback :=
  value.decodeWord.map Lookback.mk

end Lookback

/-! ### Requests -/

namespace Endpoint

/-- The text by which an end of a request travels. -/
def transportText : Endpoint → String
  | text content => content
  | date t => t.applicationText

/-- An end of a request is written as a text. -/
def toJson (endpoint : Endpoint) : Json φ := .text endpoint.transportText

/-- Reads an end of a request, which is always a text. -/
def decode (_ : MemberOrder) (value : Json φ) : Decoded φ Endpoint :=
  value.decodeText.map Endpoint.text

end Endpoint

namespace Request

/-- A request is written without the ends it has not. -/
def toJson (request : Request) : Json φ :=
  .ofMembers
    ((request.start.toList.map fun endpoint => ("from", endpoint.toJson)) ++
      request.stop.toList.map fun endpoint => ("to", endpoint.toJson))

/-- How a request is read. -/
def record (order : MemberOrder) : Record φ Request :=
  { label := "struct DateRangeInput"
    slots :=
      [.of "from" (Json.decodeOption (Endpoint.decode order)) fun start r =>
          { r with start := start },
        .of "to" (Json.decodeOption (Endpoint.decode order)) fun stop r => { r with stop := stop }]
    wholeArray := none }

/-- Reads a request. -/
def decode (order : MemberOrder) (value : Json φ) : Decoded φ Request :=
  (record order).read order .empty value

end Request

/-! ### Windows -/

namespace Timestamp

/-- A timestamp is written as the text by which it is stored. -/
def toJson (t : Timestamp) : Json φ := .text t.storedText

/-- Reads a timestamp. -/
def decode (_ : MemberOrder) (value : Json φ) : Decoded φ Timestamp :=
  match value with
  | .text content => (ofStoredText content).mapError DecodeError.badTimestamp
  | value => value.refuse "a formatted date and time string"

end Timestamp

namespace Window

/-- A window is written with both ends. -/
def toJson (window : Window) : Json φ :=
  .ofMembers [("from", window.start.toJson), ("to", window.stop.toJson)]

/-- How the ends of a window are read. -/
def record (order : MemberOrder) : Record φ (Option Timestamp × Option Timestamp) :=
  { label := "struct DateRange"
    slots :=
      [.of "from" (Timestamp.decode order) fun start ends => (some start, ends.2),
        .of "to" (Timestamp.decode order) fun stop ends => (ends.1, some stop)]
    wholeArray := some "struct DateRange with 2 elements" }

/-- A window has both ends. -/
def ofEnds : Option Timestamp × Option Timestamp → Decoded φ Window
  | (some start, some stop) => .ok ⟨start, stop⟩
  | (none, _) => .error (.missingField "from")
  | (some _, none) => .error (.missingField "to")

/-- Reads a window. -/
def decode (order : MemberOrder) (value : Json φ) : Decoded φ Window := do
  ofEnds (← (record order).read order (none, none) value)

end Window

/-! ### Formats and settings -/

namespace Formats

/-- A list of patterns is written as texts. -/
def patternsToJson (patterns : List String) : Json φ := .ofItems (patterns.map Json.text)

/-- Formats are written with all their lists. -/
def toJson (formats : Formats) : Json φ :=
  .ofMembers [("date_time", patternsToJson formats.dateTime),
    ("date", patternsToJson formats.date), ("time", patternsToJson formats.time)]

/-- How formats are read. -/
def record : Record φ Formats :=
  { label := "struct DateFormat"
    slots :=
      [.of "date_time" (Json.decodeList Json.decodeText) fun patterns f =>
          { f with dateTime := patterns },
        .of "date" (Json.decodeList Json.decodeText) fun patterns f => { f with date := patterns },
        .of "time" (Json.decodeList Json.decodeText) fun patterns f => { f with time := patterns }]
    wholeArray := none }

/-- Reads formats. -/
def decode (order : MemberOrder) (value : Json φ) : Decoded φ Formats :=
  record.read order .standard value

end Formats

namespace Settings

/-- Settings are written with lookback and formats. -/
def toJson (settings : Settings) : Json φ :=
  .ofMembers [("gap", settings.lookback.toJson), ("date_format", settings.formats.toJson)]

/-- How settings are read. -/
def record (order : MemberOrder) : Record φ Settings :=
  { label := "struct ResolverConfig"
    slots :=
      [.of "gap" (Lookback.decode order) fun lookback s => { s with lookback := lookback },
        .of "date_format" (Formats.decode order) fun formats s => { s with formats := formats }]
    wholeArray := none }

/-- Reads settings. -/
def decode (order : MemberOrder) (value : Json φ) : Decoded φ Settings :=
  (record order).read order .standard value

end Settings

end QueryWindow
