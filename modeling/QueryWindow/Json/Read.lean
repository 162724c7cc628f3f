import QueryWindow.Json.Token

/-!
# QueryWindow.Json.Read

**From tokens to a JSON value**, which is cut short where the tokens stop making one. The reader
goes through the tokens once and keeps the containers it is inside of as a list of `Frame`s, the
innermost first.

Design points:

* `Reader.step` says what one token does; `Reader.run` is a plain recursion on the tokens.
* When the reader stops early, `Reader.unwind` closes all open containers with the same fault, so
  that whoever goes through the value in order meets the fault after everything before it.
* A name that cannot be read ends an object for who wants its members, but not for who passes over
  it. The reader goes on to the object's own end and no longer keeps the members (`OpenObject`).
-/

namespace QueryWindow

/-- An object before its end. -/
structure OpenObject where
  /-- The members so far, up to the first name that cannot be read. -/
  members : List (JsonMember Fault)
  /-- What is wrong with that name, if there is one. -/
  fault : Option Fault

namespace OpenObject

/-- An object that has just begun. -/
def empty : OpenObject := ⟨[], none⟩

/-- The object with one member more, of a name or what is wrong with it. -/
def add (object : OpenObject) (name : Except Fault String) (value : Json Fault) : OpenObject :=
  match object.fault, name with
  | some _, _ => object
  | none, .ok name => { object with members := object.members ++ [(name, value)] }
  | none, .error fault => { object with fault := some fault }

/-- The object at its end. -/
def close (object : OpenObject) : Json Fault :=
  .object object.members (object.fault.map .skippable)

/-- The object that has no end because of a fault. -/
def cut (object : OpenObject) (fault : Fault) : Json Fault :=
  .object object.members (some ⟨object.fault.getD fault, some fault⟩)

end OpenObject

/-- A container around what is being read. -/
inductive Frame
  /-- An array, by its items so far. -/
  | array (items : List (Json Fault))
  /-- An object, and the name of the member being read. -/
  | member (object : OpenObject) (name : Except Fault String)

/-- What must come next. -/
inductive Expected
  | value
  /-- The first item of an array, or its end. -/
  | firstItem
  /-- A comma or the end of an array with the given items. -/
  | moreItems (items : List (Json Fault))
  /-- The name of the first member of an object, or its end. -/
  | firstName
  /-- The name of another member of an object. -/
  | name (object : OpenObject)
  /-- The colon after a name in an object. -/
  | colon (object : OpenObject) (name : Except Fault String)
  /-- A comma or the end of an object. -/
  | moreMembers (object : OpenObject)

/-- How reading goes on after a token. -/
inductive Step
  /-- Inside the given containers, with something to come. -/
  | next (expected : Expected) (frames : List Frame)
  /-- Not at all, for the value is complete. -/
  | done (value : Json Fault)
  /-- Not at all, for the text is no JSON from here on. -/
  | stop (value : Json Fault)

namespace Reader

/-- Closes all containers around a value with a fault. -/
def unwind (fault : Fault) : Json Fault → List Frame → Json Fault
  | value, [] => value
  | value, .array items :: frames =>
    unwind fault (.array (items ++ [value]) (some (.fatal fault))) frames
  | value, .member object name :: frames =>
    unwind fault ((object.add name value).cut fault) frames

/-- A complete value is the result, or an item or member of the container around it. -/
def give (value : Json Fault) : List Frame → Step
  | [] => .done value
  | .array items :: frames => .next (.moreItems (items ++ [value])) frames
  | .member object name :: frames => .next (.moreMembers (object.add name value)) frames

/-- The value when nothing that was expected comes. -/
def halt (fault : Fault) (expected : Expected) (frames : List Frame) : Json Fault :=
  match expected with
  | .value => unwind fault (.flawed (.fatal fault)) frames
  | .firstItem => unwind fault (.array [] (some (.fatal fault))) frames
  | .moreItems items => unwind fault (.array items (some (.fatal fault))) frames
  | .firstName => unwind fault (OpenObject.empty.cut fault) frames
  | .name object => unwind fault (object.cut fault) frames
  | .colon object name =>
    -- The name counts already: who asks for this member meets the fault as its value.
    unwind fault ((object.add name (.flawed (.fatal fault))).cut fault) frames
  | .moreMembers object => unwind fault (object.cut fault) frames

/-- A token where a value must come. -/
def stepValue (frames : List Frame) : Token → Step
  | .openBrace => .next .firstName frames
  | .openBracket => .next .firstItem frames
  | .null => give .null frames
  | .bool b => give (.bool b) frames
  | .number n => give (.number n) frames
  | .text content => give (.text content) frames
  | .flawed flaw _ =>
    match flaw.passedOver with
    | none => give (.flawed flaw) frames
    | some fault => .stop (unwind fault (.flawed flaw) frames)
  | .closeBrace | .closeBracket | .colon | .comma => .stop (halt .malformed .value frames)

/-- A token where the name of a member must come. -/
def stepName (object : OpenObject) (frames : List Frame) : Token → Step
  | .text content => .next (.colon object (.ok content)) frames
  | .flawed flaw true =>
    match flaw.passedOver with
    | none => .next (.colon object (.error flaw.wanted)) frames
    | some fault => .stop (halt fault (.colon object (.error flaw.wanted)) frames)
  | _ => .stop (halt .malformed (.name object) frames)

/-- What a token does. -/
def step (expected : Expected) (frames : List Frame) (token : Token) : Step :=
  match expected, token with
  | .value, token => stepValue frames token
  | .firstItem, .closeBracket => give (.ofItems []) frames
  | .firstItem, token => stepValue (.array [] :: frames) token
  | .moreItems items, .comma => .next .value (.array items :: frames)
  | .moreItems items, .closeBracket => give (.ofItems items) frames
  | .firstName, .closeBrace => give (.ofMembers []) frames
  | .firstName, token => stepName .empty frames token
  | .name object, token => stepName object frames token
  | .colon object name, .colon => .next .value (.member object name :: frames)
  | .moreMembers object, .comma => .next (.name object) frames
  | .moreMembers object, .closeBrace => give object.close frames
  | expected, _ => .stop (halt .malformed expected frames)

/-- The value that tokens make, and what is left of the tokens. -/
def run (expected : Expected) (frames : List Frame) : List Token → Json Fault × List Token
  | [] => (halt .early expected frames, [])
  | token :: tokens =>
    match step expected frames token with
    | .next expected frames => run expected frames tokens
    | .done value => (value, tokens)
    | .stop value => (value, [])

end Reader

/-- A JSON text: the value it starts with, and whether anything follows that value. -/
structure JsonDocument where
  value : Json Fault
  continued : Bool

/-- What a text holds as JSON. -/
def JsonDocument.read (text : String) : JsonDocument :=
  let (value, rest) := Reader.run .value [] (Token.scanAll text.toList)
  ⟨value, !rest.isEmpty⟩

/-- The JSON value that a text consists of. -/
def Json.ofText? (text : String) : Option (Json Empty) :=
  let document := JsonDocument.read text
  if document.continued then none else document.value.whole?

end QueryWindow
