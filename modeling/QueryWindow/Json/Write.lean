import QueryWindow.Json.Value

/-!
# QueryWindow.Json.Write

**The text of a JSON value**, without blanks. Between quotes, quotes, backslashes and controls are
written by a backslash, and all other characters as they are.
-/

namespace QueryWindow.Json

/-- A character between quotes. -/
def writeChar (c : Char) : List Char :=
  if c = '"' ∨ c = '\\' then ['\\', c]
  else if c.toNat < 0x20 then ['\\', 'u'] ++ (Digits.ofNat 16 c.toNat).leftpad 4 '0'
  else [c]

/-- A text between quotes. -/
def writeText (content : String) : List Char :=
  '"' :: content.toList.flatMap writeChar ++ ['"']

mutual

/-- The text of a value. -/
def write : Json Empty → List Char
  | null => "null".toList
  | bool true => "true".toList
  | bool false => "false".toList
  | number n => n.text
  | text content => writeText content
  | array items _ => '[' :: writeItems items ++ [']']
  | object members _ => '\x7b' :: writeMembers members ++ ['\x7d']

/-- The texts of items with commas between them. -/
def writeItems : List (Json Empty) → List Char
  | [] => []
  | [item] => write item
  | item :: items => write item ++ ',' :: writeItems items

/-- The texts of members with commas between them. -/
def writeMembers : List (String × Json Empty) → List Char
  | [] => []
  | [(name, value)] => writeText name ++ ':' :: write value
  | (name, value) :: members => writeText name ++ ':' :: write value ++ ',' :: writeMembers members

end

/-- The text of a value. -/
def toText (value : Json Empty) : String := String.ofList (write value)

end QueryWindow.Json
