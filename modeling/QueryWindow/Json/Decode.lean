import QueryWindow.Decimal.Word
import QueryWindow.Json.Read
import QueryWindow.Pattern.Fields
import QueryWindow.Text.Quoted

/-!
# QueryWindow.Json.Decode

**From JSON values to values of other types.** A decoder goes through a value in order and stops at
the first reason to refuse it, be it that the value does not fit or that the text is not JSON.

Design points:

* A `Record` is a type with named fields, read from an object by name or from an array by position.
  Each `Slot` of it says how the value of one field updates what has been read so far. Members with
  other names are passed over.
* A member whose name has come before is refused by its name alone, before its value.
* An array may stop before the last field unless the record says otherwise, but not go on after it.
* The members of a whole value are visited in the order of their names, and those of a text in the
  order in which they stand (`MemberOrder`).
-/

namespace QueryWindow

/-- Why a JSON value is refused. -/
inductive DecodeError (φ : Type)
  /-- It has another shape than the one expected. -/
  | wrongShape (found : JsonShape) (expected : String)
  /-- It is a negative number where there can be none. -/
  | negative (n : Int) (expected : String)
  | missingField (name : String)
  /-- A field comes twice. -/
  | repeatedField (name : String)
  | tooFew (count : Nat) (expected : String)
  | tooMany (count : Nat)
  /-- A text is no timestamp. -/
  | badTimestamp (error : ReadError)
  /-- The text is not JSON. -/
  | unreadable (fault : φ)
  deriving DecidableEq

/-- The result of decoding a value. -/
abbrev Decoded (φ α : Type) := Except (DecodeError φ) α

/-- The order in which the members of an object are visited. -/
inductive MemberOrder
  | asWritten
  | byName
  deriving DecidableEq

/-- The members of an object in an order. -/
def MemberOrder.arrange {φ : Type} (order : MemberOrder) (members : List (JsonMember φ)) :
    List (JsonMember φ) :=
  match order with
  | asWritten => members
  | byName => members.mergeSort fun a b => a.1 ≤ b.1

namespace Json

variable {φ α σ : Type}

/-- Refuses a value that has not the shape expected. -/
def refuse (expected : String) (value : Json φ) : Decoded φ α :=
  match value.shape with
  | .ok found => .error (.wrongShape found expected)
  | .error fault => .error (.unreadable fault)

/-- The end of a container that was gone through. -/
def finish (cut : Option (Flaw φ)) (result : α) : Decoded φ α :=
  match cut with
  | none => .ok result
  | some flaw => .error (.unreadable flaw.wanted)

/-- Passes over a value, which only fails where the text is not JSON. -/
def passOver (value : Json φ) : Decoded φ Unit :=
  match value.faultInPassing? with
  | none => .ok ()
  | some fault => .error (.unreadable fault)

/-- A text. -/
def decodeText : Json φ → Decoded φ String
  | text content => .ok content
  | value => value.refuse "a string"

/-- A whole number that a word of 64 bits can hold. -/
def decodeWord : Json φ → Decoded φ UInt64
  | number (.integer n) =>
    if n < 0 then .error (.negative n "u64")
    else if n < wordLimit then .ok (UInt64.ofNat n.toNat)
    else .error (.wrongShape (.number (.integer n)) "u64")
  | value => value.refuse "u64"

/-- A value that may be null. -/
def decodeOption (decode : Json φ → Decoded φ α) : Json φ → Decoded φ (Option α)
  | null => .ok none
  | value => (decode value).map some

/-- The items of an array, in order. -/
def decodeItems (decode : Json φ → Decoded φ α) : List (Json φ) → Decoded φ (List α)
  | [] => .ok []
  | item :: items => do
    let first ← decode item
    let rest ← decodeItems decode items
    return first :: rest

/-- An array. -/
def decodeList (decode : Json φ → Decoded φ α) : Json φ → Decoded φ (List α)
  | array items cut => do finish cut (← decodeItems decode items)
  | value => value.refuse "a sequence"

end Json

/-! ### Records -/

/-- A field of a record: its name, and what its value does to what was read so far. -/
structure Slot (φ σ : Type) where
  name : String
  /-- How the value is taken in. -/
  store : Json φ → σ → Decoded φ σ

/-- The slot of a field that is set to the value decoded. -/
def Slot.of {φ α σ : Type} (name : String) (decode : Json φ → Decoded φ α) (set : α → σ → σ) :
    Slot φ σ :=
  ⟨name, fun value state => (decode value).map fun a => set a state⟩

/-- How a type with named fields is read. -/
structure Record (φ σ : Type) where
  /-- What is expected, as refusals call it. -/
  label : String
  /-- The fields, in order. -/
  slots : List (Slot φ σ)
  /-- How refusals describe an array that must have all fields. -/
  wholeArray : Option String

namespace Record

variable {φ σ : Type}

/-- Reads the items of an array by position. -/
def readItems (record : Record φ σ) (total : Nat) (cut : Option (Flaw φ)) :
    List (Slot φ σ) → List (Json φ) → σ → Decoded φ σ
  | slot :: slots, item :: items, state => do
    record.readItems total cut slots items (← slot.store item state)
  | [], _ :: _, _ => .error (.tooMany total)
  | [], [], state => Json.finish cut state
  | _ :: _, [], state =>
    match cut, record.wholeArray with
    | some flaw, _ => .error (.unreadable flaw.wanted)
    | none, some expected => .error (.tooFew total expected)
    -- Fields that no item is left for keep the values they started from.
    | none, none => .ok state

/-- Reads the members of an object by name, given the names of fields seen before. -/
def readMembers (record : Record φ σ) (cut : Option (Flaw φ)) (seen : List String) :
    List (JsonMember φ) → σ → Decoded φ σ
  | [], state => Json.finish cut state
  | (name, value) :: members, state =>
    match record.slots.find? fun slot => slot.name = name with
    | none => do
      value.passOver
      record.readMembers cut seen members state
    | some slot =>
      -- A name that no slot has may come any number of times.
      if name ∈ seen then .error (.repeatedField name)
      else do record.readMembers cut (name :: seen) members (← slot.store value state)

/-- Reads a record, starting from the values its fields have if they are missing. -/
def read (record : Record φ σ) (order : MemberOrder) (missing : σ) : Json φ → Decoded φ σ
  | .array items cut => record.readItems items.length cut record.slots items missing
  | .object members cut => record.readMembers cut [] (order.arrange members) missing
  | value => value.refuse record.label

end Record

/-! ### Messages and kinds of errors -/

/-- A shape as refusals call it. -/
def JsonShape.describe : JsonShape → String
  | null => "null"
  | bool true => "boolean `true`"
  | bool false => "boolean `false`"
  | number (.integer n) => "integer `" ++ String.ofList (Digits.ofInt n) ++ "`"
  | number (.real negative magnitude) =>
    "floating point `" ++ String.ofList (JsonNumber.real negative magnitude).text ++ "`"
  | text content => "string " ++ Quoted.quote content
  | array => "sequence"
  | object => "map"

/-- The wording of a refusal of a whole value. -/
def DecodeError.message : DecodeError Empty → String
  | wrongShape found expected => "invalid type: " ++ found.describe ++ ", expected " ++ expected
  | negative n expected =>
    "invalid value: integer `" ++ String.ofList (Digits.ofInt n) ++ "`, expected " ++ expected
  | missingField name => "missing field `" ++ name ++ "`"
  | repeatedField name => "duplicate field `" ++ name ++ "`"
  | tooFew count expected =>
    "invalid length " ++ String.ofList (Digits.ofNat 10 count) ++ ", expected " ++ expected
  | tooMany count =>
    "invalid length " ++ String.ofList (Digits.ofNat 10 count) ++
      ", expected fewer elements in array"
  | badTimestamp error => error.message

/-- What a refusal of a text is about. -/
inductive DecodeCategory
  /-- The text is not JSON, or an array has too many items. -/
  | grammar
  /-- The text ends too early. -/
  | early
  /-- The text is JSON, but of another type. -/
  | data
  deriving DecidableEq

/-- What a refusal of a text is about. -/
def DecodeError.category : DecodeError Fault → DecodeCategory
  | unreadable .early => .early
  | unreadable .malformed => .grammar
  | tooMany _ => .grammar
  | _ => .data

end QueryWindow
