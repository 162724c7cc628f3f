import QueryWindow.Decimal.Shortest

/-!
# QueryWindow.Json.Value

**JSON values, whole or cut short.** A `Json Fault` is what a text holds up to the first place where
it stops being JSON: a container that does not go on to its end remembers why, and a value that
could not be read at all stands in its place as `Json.flawed`. A `Json Empty` has no such places,
and so is an ordinary JSON value.

One type for both means that one decoder serves both, and meets the faults of a text in the order in
which they stand there among other reasons to refuse it.

Who wants a value and who passes over it may meet different faults, or only one of them a fault at
all. A `Flaw` holds both.
-/

namespace QueryWindow

/-- A number as it is written, which is more than its value: `1.0` is not an integer. -/
inductive JsonNumber
  /-- An integer that a word of 64 bits can hold, with a sign if it is negative. -/
  | integer (n : Int)
  /-- Any other number, by its sign and the number nearest to it. -/
  | real (negative : Bool) (magnitude : Binary64)
  deriving DecidableEq

/-- What is wrong at a place that could not be read. -/
structure Flaw (φ : Type) where
  /-- What is wrong for who wants the value. -/
  wanted : φ
  /-- What is wrong for who passes over the value, if anything is. -/
  passedOver : Option φ
  deriving DecidableEq

/-- The same is wrong for everyone. -/
def Flaw.fatal {φ : Type} (fault : φ) : Flaw φ := ⟨fault, some fault⟩

/-- Nothing is wrong for who passes over the value. -/
def Flaw.skippable {φ : Type} (fault : φ) : Flaw φ := ⟨fault, none⟩

/-- A JSON value, in which faults of type `φ` stand for what could not be read. -/
inductive Json (φ : Type) where
  | null
  | bool (b : Bool)
  | number (n : JsonNumber)
  | text (content : String)
  /-- The items of an array, and what keeps them from going on to its end, if anything does. -/
  | array (items : List (Json φ)) (cut : Option (Flaw φ))
  /-- The members of an object in order, and what keeps them from going on to its end. -/
  | object (members : List (String × Json φ)) (cut : Option (Flaw φ))
  /-- The place of a value that could not be read. -/
  | flawed (flaw : Flaw φ)

/-- The name and value of a member of an object. -/
abbrev JsonMember (φ : Type) := String × Json φ

/-- What kind of value a JSON value is, with its content if it is a scalar. -/
inductive JsonShape
  | null
  | bool (b : Bool)
  | number (n : JsonNumber)
  | text (content : String)
  | array
  | object
  deriving DecidableEq

/-- The text of a number. -/
def JsonNumber.text : JsonNumber → List Char
  | integer n => Digits.ofInt n
  | real negative magnitude => (if negative then ['-'] else []) ++ Shortest.text magnitude

namespace Json

variable {φ : Type}

/-- The shape of a value, or what is wrong with it for who wants it. -/
def shape : Json φ → Except φ JsonShape
  | null => .ok .null
  | bool b => .ok (.bool b)
  | number n => .ok (.number n)
  | text content => .ok (.text content)
  | array _ _ => .ok .array
  | object _ _ => .ok .object
  | flawed flaw => .error flaw.wanted

/-- What is wrong with a value for who passes over it. -/
def faultInPassing? : Json φ → Option φ
  | array _ (some flaw) | object _ (some flaw) | flawed flaw => flaw.passedOver
  | _ => none

/-- A whole array. -/
def ofItems (items : List (Json φ)) : Json φ := array items none

/-- A whole object. -/
def ofMembers (members : List (JsonMember φ)) : Json φ := object members none

/-- A member replaces any earlier one of the same name. -/
def replace (members : List (JsonMember φ)) (member : JsonMember φ) : List (JsonMember φ) :=
  members.filter (fun earlier => earlier.1 ≠ member.1) ++ [member]

mutual

/-- The value, if nothing is wrong with it. Of members of the same name, the last one counts. -/
def whole? : Json φ → Option (Json Empty)
  | null => some .null
  | bool b => some (.bool b)
  | number n => some (.number n)
  | text content => some (.text content)
  | array items none => (wholeItems? items).map ofItems
  | object members none => (wholeMembers? members []).map ofMembers
  | array _ (some _) | object _ (some _) | flawed _ => none

/-- The items of an array, if nothing is wrong with them. -/
def wholeItems? : List (Json φ) → Option (List (Json Empty))
  | [] => some []
  | item :: items => do return (← whole? item) :: (← wholeItems? items)

/-- The members of an object, if nothing is wrong with them, after those already seen. -/
def wholeMembers? : List (String × Json φ) → List (JsonMember Empty) →
    Option (List (JsonMember Empty))
  | [], seen => some seen
  | (name, value) :: members, seen => do
    wholeMembers? members (replace seen (name, ← whole? value))

end

/-- The value of the member of a name. -/
def get? (name : String) : Json φ → Option (Json φ)
  | object members _ => members.lookup name
  | _ => none

end Json

end QueryWindow
