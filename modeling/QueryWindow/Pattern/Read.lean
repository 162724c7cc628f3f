import QueryWindow.Pattern.Fields
import QueryWindow.Pattern.Items
import QueryWindow.Pattern.Names
import QueryWindow.Text.Digits

/-!
# QueryWindow.Pattern.Read

**Reading a text by the items of a pattern.** The items are matched in order, each against the start
of what the items before it have left, and the values found go into `Fields`. Nothing is ever tried
twice: each item takes as much as it can, and that is final.

Design points:

* A function that reads answers what is left of the text, beside its value.
* Whether a value fits its field is decided when it is read; whether the values fit together is
  decided afterwards, by `QueryWindow.Pattern.Dating`.
* The notation of RFC 3339 is itself a sequence of items around the letter that joins date and time
  (`Item.read`), and all other items are read by `Item.readSimple`.
-/

namespace QueryWindow

/-! ### Numbers -/

/-- The digits at the start of a text, at most as many as the limit says. -/
def leadingDigits (limit : Option Nat) (cs : List Char) : List Char :=
  match limit with
  | none => cs.takeWhile Char.isDigit
  | some n => (cs.take n).takeWhile Char.isDigit

/-- A number of at least and at most so many digits at the start of a text. -/
def readNatural (least : Nat) (limit : Option Nat) (cs : List Char) :
    Except ReadError (Nat × List Char) :=
  let digits := leadingDigits limit cs
  -- The length of the text decides first, whatever its characters are.
  if cs.length < least then .error .tooShort
  else if digits.length < least then .error .invalid
  else .ok (Digits.value 10 digits, cs.drop digits.length)

/-- The nanoseconds for the digits of a fraction, of which the first nine count. -/
def nanosOfFraction (digits : List Char) : Nat :=
  Digits.value 10 (digits.take 9) * Digits.weight 10 (9 - digits.length)

/-- The nanoseconds of a fraction of one or more digits. -/
def readFraction (cs : List Char) : Except ReadError (Nat × List Char) :=
  (readNatural 1 none cs).map fun (_, rest) => (nanosOfFraction (leadingDigits none cs), rest)

/-- The nanoseconds of a fraction of exactly so many digits. -/
def readFractionDigits (count : Nat) (cs : List Char) : Except ReadError (Nat × List Char) :=
  (readNatural count (some count) cs).map fun (n, rest) => (n * Digits.weight 10 (9 - count), rest)

namespace Quantity

/-- The value of a number, after any blanks. A sign lifts the limit on the number of digits. -/
def readValue (kind : Quantity) (cs : List Char) : Except ReadError (Int × List Char) :=
  match kind.signed, skipBlanks cs with
  | true, '-' :: cs => (readNatural 1 none cs).map fun (n, rest) => (-(n : Int), rest)
  | true, '+' :: cs => (readNatural 1 none cs).map fun (n, rest) => ((n : Int), rest)
  | _, cs => (readNatural 1 kind.readWidth cs).map fun (n, rest) => ((n : Int), rest)

/-- A number and the fields it fixes. -/
def read (kind : Quantity) (fields : Fields) (cs : List Char) :
    Except ReadError (Fields × List Char) := do
  let (value, rest) ← kind.readValue cs
  if kind.least ≤ value ∧ value ≤ kind.greatest then
    return (← fields.setAll (kind.facts value), rest)
  else
    throw .outOfRange

end Quantity

/-! ### Names and offsets -/

/-- The place in a list of the name at the start of a text. -/
def readName (names : List String) (long : Bool) (cs : List Char) :
    Except ReadError (Nat × List Char) :=
  match Name.find? names long cs with
  | some found => .ok found
  | none => .error (if cs.length < 3 then .tooShort else .invalid)

/-- The half of the day, 0 before noon and 1 after. -/
def readHalf (cs : List Char) : Except ReadError (Nat × List Char) :=
  match Name.dropWord? ['a', 'm'] cs, Name.dropWord? ['p', 'm'] cs with
  | some rest, _ => .ok (0, rest)
  | none, some rest => .ok (1, rest)
  | none, none => .error (if cs.length < 2 then .tooShort else .invalid)

/-- The sign of an offset, which may be the minus sign of mathematics. -/
def readSign : List Char → Except ReadError (Int × List Char)
  | '+' :: cs => .ok (1, cs)
  | '-' :: cs => .ok (-1, cs)
  | '\u2212' :: cs => .ok (-1, cs)
  | [] => .error .tooShort
  | _ :: _ => .error .invalid

/-- The minutes of an offset, two digits below sixty. Where they may be missing, the text must end
there. -/
def readOffsetMinutes (mayLack : Bool) (cs : List Char) : Except ReadError (Nat × List Char) :=
  if mayLack && cs.isEmpty then .ok (0, [])
  else do
    let (minutes, rest) ← readNatural 2 (some 2) cs
    if minutes < 60 then return (minutes, rest) else throw .outOfRange

/-- An offset from universal time in seconds: a sign, two digits for the hours, any colons and
blanks, two digits for the minutes. Where it is allowed, the letter Z is the offset zero. -/
def readOffset (letterAllowed minutesMayLack : Bool) (cs : List Char) :
    Except ReadError (Int × List Char) :=
  match letterAllowed, cs with
  | true, 'Z' :: rest => .ok (0, rest)
  | true, 'z' :: rest => .ok (0, rest)
  | _, cs => do
    let (sign, cs) ← readSign cs
    let (hours, cs) ← readNatural 2 (some 2) cs
    let cs := cs.dropWhile fun c => c = ':' || isBlank c
    let (minutes, rest) ← readOffsetMinutes minutesMayLack cs
    return (sign * (hours * 3600 + minutes * 60), rest)

/-! ### Items -/

/-- Puts a value that was read into a field. -/
def Fields.store (fields : Fields) (field : Field) (found : Nat × List Char) :
    Except ReadError (Fields × List Char) :=
  (fields.set field found.1).map fun fields => (fields, found.2)

namespace Item

/-- Reads an item other than the notation of RFC 3339. -/
def readSimple (item : Item) (fields : Fields) (cs : List Char) :
    Except ReadError (Fields × List Char) :=
  match item with
  | literal c =>
    match cs with
    | [] => .error .tooShort
    | d :: rest => if c = d then .ok (fields, rest) else .error .invalid
  | blank _ => .ok (fields, skipBlanks cs)
  | number kind _ => kind.read fields cs
  | monthName long => do
    let (place, rest) ← readName monthNames long cs
    fields.store .month (place + 1, rest)
  | weekdayName long => do fields.store .weekday (← readName weekdayNames long cs)
  | half _ => do fields.store .half (← readHalf cs)
  | fraction =>
    match cs with
    | '.' :: cs => do fields.store .nanosecond (← readFraction cs)
    | _ => .ok (fields, cs)
  | fractionAfterDot count =>
    match cs with
    | '.' :: cs => do fields.store .nanosecond (← readFractionDigits count cs)
    | _ => .ok (fields, cs)
  | fractionDigits count => do fields.store .nanosecond (← readFractionDigits count cs)
  | offset lenient => do
    let (seconds, rest) ← readOffset lenient lenient (skipBlanks cs)
    return (← fields.set .offset seconds, rest)
  | zoneName => .ok (fields, cs.dropWhile fun c => !isBlank c)
  -- The notation of RFC 3339 does not occur within itself.
  | zonedTimestamp | invalid => .error .badFormat

/-- Reads items in order. -/
def readSimples (items : List Item) (fields : Fields) (cs : List Char) :
    Except ReadError (Fields × List Char) :=
  match items with
  | [] => .ok (fields, cs)
  | item :: items => do
    let (fields, rest) ← item.readSimple fields cs
    readSimples items fields rest

/-- The date of the notation of RFC 3339. -/
def rfc3339Date : List Item :=
  [number .year .zero, blank ' ', literal '-', number .month .zero, blank ' ', literal '-',
    number .day .zero]

/-- The time of the notation of RFC 3339. -/
def rfc3339Time : List Item :=
  [number .hour .zero, blank ' ', literal ':', number .minute .zero, blank ' ', literal ':',
    number .second .zero, fraction, blank ' ']

/-- The offset of the notation of RFC 3339, which may also be the letters UTC. -/
def readZone (cs : List Char) : Except ReadError (Int × List Char) :=
  match Name.dropWord? ['u', 't', 'c'] cs with
  | some rest => .ok (0, rest)
  | none => readOffset true false cs

/-- The character between date and time in the notation of RFC 3339. -/
def readJoint : List Char → Except ReadError (List Char)
  | 'T' :: cs => .ok cs
  | 't' :: cs => .ok cs
  | ' ' :: cs => .ok cs
  | [] => .error .tooShort
  | _ :: _ => .error .invalid

/-- Reads an item: adds the values it finds and answers what is left of the text. -/
def read (item : Item) (fields : Fields) (cs : List Char) :
    Except ReadError (Fields × List Char) :=
  match item with
  | zonedTimestamp => do
    let (fields, cs) ← readSimples rfc3339Date fields cs
    let cs ← readJoint cs
    let (fields, cs) ← readSimples rfc3339Time fields cs
    let (seconds, rest) ← readZone (skipBlanks cs)
    return (← fields.set .offset seconds, rest)
  | item => item.readSimple fields cs

end Item

namespace Pattern

/-- Reads the items of a pattern in order. -/
def readItems (items : List Item) (fields : Fields) (cs : List Char) :
    Except ReadError (Fields × List Char) :=
  match items with
  | [] => .ok (fields, cs)
  | item :: items => do
    let (fields, rest) ← item.read fields cs
    readItems items fields rest

/-- What a whole text says by the items of a pattern. -/
def readFields (items : List Item) (cs : List Char) : Except ReadError Fields := do
  let (fields, rest) ← readItems items .empty cs
  if rest.isEmpty then return fields else throw .tooLong

end Pattern

end QueryWindow
