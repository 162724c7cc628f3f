import QueryWindow.Pattern.Item
import QueryWindow.Text.Blank

/-!
# QueryWindow.Pattern.Items

**From the text of a pattern to its items.** A pattern is scanned one character at a time. Outside
specifiers every character is an item of its own; a percent sign opens a specifier, which one more
character completes unless that character only modifies it.

Design points:

* `Scan.step` says what one character adds, and `Pattern.itemsFrom` is its iteration, so that facts
  about all patterns need no more than an induction on the characters.
* Abbreviations such as `%F` are expanded where they are found. A padding flag may stand only before
  a specifier that is a single number.
* A pattern that ends within a specifier ends with `Item.invalid`.
-/

namespace QueryWindow

/-- How far into a specifier the scan of a pattern has come. -/
inductive Scan
  /-- Outside specifiers. -/
  | text
  /-- After the percent sign. -/
  | percent
  /-- After a padding flag. -/
  | padded (padding : Padding)
  /-- After the flag for the other form. -/
  | alternate
  /-- After the given number of colons. -/
  | colons (count : Nat)
  /-- After a dot. -/
  | dot
  /-- After a dot and a number of digits. -/
  | dotDigits (digits : Nat)
  /-- After a number of digits. -/
  | digits (digits : Nat)
  deriving DecidableEq

namespace Item

/-- The item for a character outside specifiers. -/
def ofChar (c : Char) : Item :=
  if isBlank c then blank c else literal c

/-- The number a letter stands for, with the padding it has unless a flag says otherwise. -/
def quantity? : Char → Option (Quantity × Padding)
  | 'Y' => some (.year, .zero)
  | 'C' => some (.century, .zero)
  | 'y' => some (.yearOfCentury, .zero)
  | 'G' => some (.isoYear, .zero)
  | 'g' => some (.isoYearOfCentury, .zero)
  | 'q' => some (.quarter, .none)
  | 'm' => some (.month, .zero)
  | 'd' => some (.day, .zero)
  | 'e' => some (.day, .space)
  | 'U' => some (.weekFromSunday, .zero)
  | 'W' => some (.weekFromMonday, .zero)
  | 'V' => some (.isoWeek, .zero)
  | 'w' => some (.weekdayFromSunday, .none)
  | 'u' => some (.weekdayFromMonday, .none)
  | 'j' => some (.ordinal, .zero)
  | 'H' => some (.hour, .zero)
  | 'k' => some (.hour, .space)
  | 'I' => some (.hourOfHalf, .zero)
  | 'l' => some (.hourOfHalf, .space)
  | 'M' => some (.minute, .zero)
  | 'S' => some (.second, .zero)
  | 'f' => some (.nanosecond, .zero)
  | 's' => some (.unixSeconds, .none)
  | _ => none

/-- Month, day and two-digit year between slashes. -/
def slashedDate : List Item :=
  [.number .month .zero, .literal '/', .number .day .zero, .literal '/',
    .number .yearOfCentury .zero]

/-- Year, month and day between hyphens. -/
def hyphenatedDate : List Item :=
  [.number .year .zero, .literal '-', .number .month .zero, .literal '-', .number .day .zero]

/-- Hour and minute. -/
def hourMinute : List Item :=
  [.number .hour .zero, .literal ':', .number .minute .zero]

/-- Hour, minute and second. -/
def hourMinuteSecond : List Item :=
  hourMinute ++ [.literal ':', .number .second .zero]

/-- Hour of the half day, minute, second and the half. -/
def halfDayTime : List Item :=
  [.number .hourOfHalf .zero, .literal ':', .number .minute .zero, .literal ':',
    .number .second .zero, .blank ' ', .half true]

/-- Weekday, month, day, time and year. -/
def longTimestamp : List Item :=
  [.weekdayName false, .blank ' ', .monthName false, .blank ' ', .number .day .space, .blank ' '] ++
    hourMinuteSecond ++ [.blank ' ', .number .year .zero]

/-- Day, month name and year between hyphens. -/
def namedMonthDate : List Item :=
  [.number .day .space, .literal '-', .monthName false, .literal '-', .number .year .zero]

/-- What a letter directly after a percent sign stands for. -/
def ofSpecifier (c : Char) : List Item :=
  match c with
  | 'D' | 'x' => slashedDate
  | 'F' => hyphenatedDate
  | 'R' => hourMinute
  | 'T' | 'X' => hourMinuteSecond
  | 'r' => halfDayTime
  | 'c' => longTimestamp
  | 'v' => namedMonthDate
  | 'b' | 'h' => [.monthName false]
  | 'B' => [.monthName true]
  | 'a' => [.weekdayName false]
  | 'A' => [.weekdayName true]
  | 'p' => [.half true]
  | 'P' => [.half false]
  | 'z' => [.offset false]
  | 'Z' => [.zoneName]
  | '+' => [.zonedTimestamp]
  | '%' => [.literal '%']
  | 'n' => [.blank '\n']
  | 't' => [.blank '\t']
  | c =>
    match quantity? c with
    | some (kind, padding) => [.number kind padding]
    | none => [.invalid]

/-- What a letter after a padding flag stands for. -/
def ofPadded (padding : Padding) (c : Char) : Item :=
  match quantity? c with
  | some (kind, _) => .number kind padding
  | none => .invalid

end Item

namespace Scan

/-- The items that one more character completes, and how the scan goes on. -/
def step : Scan → Char → List Item × Scan
  | text, c => if c = '%' then ([], percent) else ([Item.ofChar c], text)
  | percent, '-' => ([], padded .none)
  | percent, '_' => ([], padded .space)
  | percent, '0' => ([], padded .zero)
  | percent, '#' => ([], alternate)
  | percent, ':' => ([], colons 1)
  | percent, '.' => ([], dot)
  | percent, '3' => ([], digits 3)
  | percent, '6' => ([], digits 6)
  | percent, '9' => ([], digits 9)
  -- No flag: an abbreviation may complete several items at once.
  | percent, c => (Item.ofSpecifier c, text)
  | padded padding, c => ([Item.ofPadded padding c], text)
  | alternate, c => ([if c = 'z' then .offset true else .invalid], text)
  | colons count, c =>
    if c = 'z' then ([.offset false], text)
    else if c = ':' ∧ count < 3 then ([], colons (count + 1))
    else ([.invalid], text)
  | dot, 'f' => ([.fraction], text)
  | dot, '3' => ([], dotDigits 3)
  | dot, '6' => ([], dotDigits 6)
  | dot, '9' => ([], dotDigits 9)
  | dot, _ => ([.invalid], text)
  | dotDigits count, c => ([if c = 'f' then .fractionAfterDot count else .invalid], text)
  | digits count, c => ([if c = 'f' then .fractionDigits count else .invalid], text)

end Scan

namespace Pattern

/-- The items of what is left of a pattern. -/
def itemsFrom : Scan → List Char → List Item
  | .text, [] => []
  | _, [] => [.invalid]
  | scan, c :: cs => (scan.step c).1 ++ itemsFrom (scan.step c).2 cs

/-- The items of a pattern. -/
def items (pattern : String) : List Item := itemsFrom .text pattern.toList

theorem itemsFrom_cons (scan : Scan) (c : Char) (cs : List Char) :
    itemsFrom scan (c :: cs) = (scan.step c).1 ++ itemsFrom (scan.step c).2 cs := by
  cases scan <;> rfl

/-- Outside specifiers, a character other than the percent sign is an item. -/
theorem itemsFrom_text {c : Char} (h : c ≠ '%') (cs : List Char) :
    itemsFrom .text (c :: cs) = Item.ofChar c :: itemsFrom .text cs := by
  simp [itemsFrom_cons, Scan.step, h]

end Pattern

end QueryWindow
