import QueryWindow.Text.Digits
import QueryWindow.Text.Printable

/-!
# QueryWindow.Text.Quoted

**Text shown between double quotes**, such that any text can be shown on one line and told from any
other. Quotes and backslashes get a backslash, the usual controls a letter, and whatever cannot be
printed the number of its code point.
-/

namespace QueryWindow.Quoted

/-- A character by its code point, in lower-case hexadecimal between braces. -/
def encodeByNumber (c : Char) : List Char :=
  ['\\', 'u', '\x7b'] ++ Digits.ofNat 16 c.toNat ++ ['\x7d']

/-- A character as it is shown between quotes. -/
def encodeChar (c : Char) : List Char :=
  match c with
  | '\x00' => ['\\', '0']
  | '\t' => ['\\', 't']
  | '\n' => ['\\', 'n']
  | '\r' => ['\\', 'r']
  | '"' => ['\\', '"']
  | '\\' => ['\\', '\\']
  | c => if isPrintable c then [c] else encodeByNumber c

/-- The inside of the quotes. -/
def encode (cs : List Char) : List Char := cs.flatMap encodeChar

/-- A text with its quotes. -/
def quote (text : String) : String :=
  String.ofList ('"' :: encode text.toList ++ ['"'])

@[simp] theorem encode_cons (c : Char) (cs : List Char) :
    encode (c :: cs) = encodeChar c ++ encode cs := rfl

end QueryWindow.Quoted
