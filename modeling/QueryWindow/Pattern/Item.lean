import QueryWindow.Decimal.Word

/-!
# QueryWindow.Pattern.Item

**What a date pattern is made of.** A pattern is a sequence of items. Each item stands for a piece
of text: a character that is there literally, a run of blanks, or one aspect of a date or time,
written as a number or as a name.

Design points:

* Numbers are one constructor, `Item.number`, over the enumeration `Quantity`. What differs between
  them is data: how wide they are written, how many digits are read, which values they admit.
* Padding belongs to writing alone. When a pattern is read it makes no difference.
* A specifier that is none is an item too, `Item.invalid`. It matches no text and has no text.
-/

namespace QueryWindow

/-- How a number is filled up to its width. -/
inductive Padding
  /-- With zeros between sign and digits. -/
  | zero
  /-- With spaces before the sign. -/
  | space
  /-- Not at all. -/
  | none
  deriving DecidableEq

/-- An aspect of a date or time that is written as a number. -/
inductive Quantity
  | year
  /-- The year divided by a hundred. -/
  | century
  /-- The last two digits of the year. -/
  | yearOfCentury
  /-- The year of the ISO week. -/
  | isoYear
  /-- The last two digits of the year of the ISO week. -/
  | isoYearOfCentury
  /-- The quarter of the year, from 1. -/
  | quarter
  | month
  | day
  /-- The week of the year, week 1 starting on the first Sunday. -/
  | weekFromSunday
  /-- The week of the year, week 1 starting on the first Monday. -/
  | weekFromMonday
  /-- The ISO week, from 1. -/
  | isoWeek
  /-- The weekday, Sunday being 0. -/
  | weekdayFromSunday
  /-- The weekday, Monday being 1. -/
  | weekdayFromMonday
  /-- The day of the year, from 1. -/
  | ordinal
  | hour
  /-- The hour of a half day, midnight and noon being 12. -/
  | hourOfHalf
  | minute
  /-- The second of the minute, a leap second being 60. -/
  | second
  | nanosecond
  /-- The seconds since the start of 1970-01-01. -/
  | unixSeconds
  deriving DecidableEq

/-- A piece of a pattern. -/
inductive Item
  /-- The character itself. -/
  | literal (c : Char)
  /-- Written as the given blank character, read as any run of blanks. -/
  | blank (c : Char)
  | number (kind : Quantity) (padding : Padding)
  /-- The name of the month, its first three letters unless `long`. -/
  | monthName (long : Bool)
  /-- The name of the weekday, its first three letters unless `long`. -/
  | weekdayName (long : Bool)
  /-- Which half of the day it is, in capitals or in small letters. -/
  | half (capitals : Bool)
  /-- The fraction of the second with a dot before it, if there is one. -/
  | fraction
  /-- The fraction of the second with a dot before it, to the given number of digits. -/
  | fractionAfterDot (digits : Nat)
  /-- The fraction of the second without a dot, to the given number of digits. -/
  | fractionDigits (digits : Nat)
  /-- The offset from universal time; a lenient one may lack minutes or be the letter Z. -/
  | offset (lenient : Bool)
  | zoneName
  /-- A whole date, time and offset in the notation of RFC 3339. -/
  | zonedTimestamp
  | invalid
  deriving DecidableEq

namespace Quantity

/-- The width to which a number is filled up when it is written. -/
def writtenWidth : Quantity → Nat
  | quarter | weekdayFromSunday | weekdayFromMonday => 1
  | year | isoYear => 4
  | ordinal => 3
  | nanosecond | unixSeconds => 9
  | _ => 2

/-- The number of digits that are read at most, if there is a limit. -/
def readWidth : Quantity → Option Nat
  | unixSeconds => none
  | kind => some kind.writtenWidth

/-- Only years may be read with a sign. -/
def signed : Quantity → Bool
  | year | isoYear => true
  | _ => false

/-- The least value a number may have when it is read. -/
def least : Quantity → Int
  | year | isoYear => -signedHalfWordLimit
  | quarter | month | day | isoWeek | weekdayFromMonday | ordinal | hourOfHalf => 1
  | _ => 0

/-- The greatest value a number may have when it is read. -/
def greatest : Quantity → Int
  | year | isoYear => signedHalfWordLimit - 1
  | century | yearOfCentury | isoYearOfCentury => 99
  | quarter => 4
  | month | hourOfHalf => 12
  | day => 31
  | weekFromSunday | weekFromMonday | isoWeek => 53
  | weekdayFromSunday => 6
  | weekdayFromMonday => 7
  | ordinal => 366
  | hour => 23
  | minute => 59
  | second => 60
  | nanosecond => 999999999
  | unixSeconds => signedWordLimit - 1

end Quantity

end QueryWindow
