import QueryWindow.Pattern.Dating
import QueryWindow.Pattern.Read
import QueryWindow.Pattern.Write

/-!
# QueryWindow.Pattern

**Reading and writing dates and times by a pattern.** A pattern is text with specifiers such as `%Y`
for the year. What it can be used to read depends on what is asked for: a whole timestamp, a date
alone or a time alone. Values that are read but not asked for must be possible values of their
field, and are otherwise ignored.

The module also holds the notation in which timestamps are stored and shown, which has no pattern to
choose: year to fraction of a second, with a letter or a space between date and time.
-/

namespace QueryWindow

namespace Pattern

/-- The timestamp that a text means by a pattern. -/
def timestamp? (pattern : String) (cs : List Char) : Option Timestamp :=
  ((readFields (items pattern) cs).bind Fields.timestamp).toOption

/-- The date that a text means by a pattern. -/
def date? (pattern : String) (cs : List Char) : Option Date :=
  ((readFields (items pattern) cs).bind Fields.date).toOption

/-- The time of day that a text means by a pattern. -/
def time? (pattern : String) (cs : List Char) : Option Time :=
  ((readFields (items pattern) cs).bind Fields.time).toOption

/-- The text of a timestamp by a pattern, if the pattern can be written. -/
def write? (pattern : String) (t : Timestamp) : Option String :=
  (writeItems? t (items pattern)).map String.ofList

end Pattern

namespace Timestamp

/-- A timestamp with the given character between date and time. -/
def textWith (joint : Char) (t : Timestamp) : List Char :=
  writeYear .zero t.date.year ++ '-' :: Digits.padded 2 t.date.month ++
    '-' :: Digits.padded 2 t.date.day ++ joint :: Quantity.hour.write .zero t ++
    ':' :: Quantity.minute.write .zero t ++ ':' :: Quantity.second.write .zero t ++
    writeFraction t.time.nano

/-- The text by which a timestamp is stored. -/
def storedText (t : Timestamp) : String := String.ofList (t.textWith 'T')

/-- The text by which a timestamp is shown in a sentence. -/
def shownText (t : Timestamp) : String := String.ofList (t.textWith ' ')

/-- The items by which a stored timestamp is read, with blanks allowed before the signs between its
parts and at its end. -/
def storedItems : List Item :=
  Item.rfc3339Date ++ [.blank ' ', .literal 'T'] ++ Item.rfc3339Time

/-- The timestamp that a stored text means. -/
def ofStoredText (text : String) : Except ReadError Timestamp :=
  (Pattern.readFields storedItems text.toList).bind Fields.timestamp

end Timestamp

end QueryWindow
