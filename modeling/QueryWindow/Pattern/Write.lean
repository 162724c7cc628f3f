import QueryWindow.Calendar.Timestamp
import QueryWindow.Calendar.Week
import QueryWindow.Pattern.Items
import QueryWindow.Pattern.Names
import QueryWindow.Text.Digits

/-!
# QueryWindow.Pattern.Write

**Writing a timestamp by the items of a pattern.** Each item has a text for the timestamp; a pattern
is written if all its items have one. Which items have none, offsets, zone names and invalid
specifiers, does not depend on the timestamp (`Item.isWritable`).

Design points:

* A number is a sign, which may be empty, and digits; `fill` is the one rule that brings them to a
  width. The sign counts towards the width.
* Years from 0 to 9999 have four digits and no sign. Other years have a sign, and with it one place
  more.
* A leap second is written as second 60.
-/

namespace QueryWindow

/-! ### Numbers -/

/-- Sign and digits, filled up to a width. -/
def fill (padding : Padding) (width : Nat) (sign digits : List Char) : List Char :=
  match padding with
  | .zero => sign ++ digits.leftpad (width - sign.length) '0'
  | .space => (sign ++ digits).leftpad width ' '
  | .none => sign ++ digits

/-- The sign that a number needs. -/
def minusIfNegative (n : Int) : List Char := if n < 0 then ['-'] else []

/-- A year, which has a sign unless it has at most four digits. -/
def writeYear (padding : Padding) (year : Int) : List Char :=
  let digits := Digits.ofNat 10 year.natAbs
  if 0 ≤ year ∧ year < 10000 then fill padding 4 [] digits
  else fill padding 5 [if year < 0 then '-' else '+'] digits

/-- The digits of a century, of which there are always two places: the first one goes on past the
digit nine in the order of characters. -/
def centuryDigits (century : Nat) : List Char :=
  if century < 100 then Digits.ofNat 10 century
  else [Char.ofNat (48 + century / 10), Nat.digitChar (century % 10)]

namespace Quantity

/-- The value that a number has for a timestamp. -/
def valueOf (kind : Quantity) (t : Timestamp) : Int :=
  match kind with
  | year => t.date.year
  -- One byte holds the century.
  | century => t.date.year / 100 % 256
  | yearOfCentury => t.date.year % 100
  | isoYear => t.date.isoYear
  | isoYearOfCentury => t.date.isoYear % 100
  | quarter => t.date.quarter
  | month => t.date.month
  | day => t.date.day
  | weekFromSunday => t.date.weekFromSunday
  | weekFromMonday => t.date.weekFromMonday
  | isoWeek => t.date.isoWeek
  | weekdayFromSunday => t.date.daysSinceSunday
  | weekdayFromMonday => t.date.daysSinceMonday + 1
  | ordinal => t.date.ordinal
  | hour => t.time.hour
  | hourOfHalf => (t.time.hour + 11) % 12 + 1
  | minute => t.time.minute
  | second => t.time.secondOfMinute + t.time.nano / nanosPerSecond
  | nanosecond => t.time.nano % nanosPerSecond
  | unixSeconds => t.unixSeconds

/-- The text of a number for a timestamp. -/
def write (kind : Quantity) (padding : Padding) (t : Timestamp) : List Char :=
  let value := kind.valueOf t
  match kind with
  | year | isoYear => writeYear padding value
  | century => fill padding 2 [] (centuryDigits value.toNat)
  | kind => fill padding kind.writtenWidth (minusIfNegative value) (Digits.ofNat 10 value.natAbs)

end Quantity

/-! ### Names and fractions -/

/-- The name at a place in a list, in full or its first three letters. -/
def writeName (names : List String) (long : Bool) (place : Nat) : List Char :=
  let name := names.getD place ""
  if long then name.toList else Name.short name

/-- The first digits of the nine of a fraction. -/
def writeFractionDigits (count nano : Nat) : List Char :=
  Digits.padded count (nano % nanosPerSecond / Digits.weight 10 (9 - count))

/-- The number of digits, out of three, six and nine, that a fraction needs; none if it is zero. -/
def fractionPlaces (nano : Nat) : Nat :=
  let nano := nano % nanosPerSecond
  if nano = 0 then 0
  else if nano % 1000000 = 0 then 3
  else if nano % 1000 = 0 then 6
  else 9

/-- A dot and as many digits as are needed, or nothing for a whole second. -/
def writeFraction (nano : Nat) : List Char :=
  match fractionPlaces nano with
  | 0 => []
  | places => '.' :: writeFractionDigits places nano

/-- The half of the day, in capitals or in small letters. -/
def writeHalf (capitals : Bool) (hour : Nat) : List Char :=
  match capitals, decide (hour < 12) with
  | true, true => ['A', 'M']
  | true, false => ['P', 'M']
  | false, true => ['a', 'm']
  | false, false => ['p', 'm']

/-! ### Items -/

namespace Item

/-- The text of an item for a timestamp, if it has one. -/
def write? (t : Timestamp) : Item → Option (List Char)
  | literal c | blank c => some [c]
  | number kind padding => some (kind.write padding t)
  | monthName long => some (writeName monthNames long (t.date.month - 1))
  | weekdayName long => some (writeName weekdayNames long t.date.daysSinceMonday)
  | half capitals => some (writeHalf capitals t.time.hour)
  | fraction => some (writeFraction t.time.nano)
  | fractionAfterDot count => some ('.' :: writeFractionDigits count t.time.nano)
  | fractionDigits count => some (writeFractionDigits count t.time.nano)
  | offset _ | zoneName | zonedTimestamp | invalid => none

/-- The item has a text for timestamps. -/
def isWritable : Item → Bool
  | offset _ | zoneName | zonedTimestamp | invalid => false
  | _ => true

theorem isSome_write? (t : Timestamp) (item : Item) : (item.write? t).isSome = item.isWritable := by
  cases item <;> rfl

end Item

namespace Pattern

/-- The text of a timestamp by the items of a pattern, if all of them have one. -/
def writeItems? (t : Timestamp) : List Item → Option (List Char)
  | [] => some []
  | item :: items => do
    let first ← item.write? t
    let rest ← writeItems? t items
    return first ++ rest

end Pattern

end QueryWindow
