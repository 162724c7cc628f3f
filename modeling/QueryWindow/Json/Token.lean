import QueryWindow.Decimal.Word
import QueryWindow.Json.Value

/-!
# QueryWindow.Json.Token

**The words of a JSON text.** A text is cut into tokens without regard to how they fit together. A
place at which no token can be read is itself a token, `Token.flawed`. It is the last one if the
flaw is one for who passes over it too.

Design points:

* A text between quotes may be complete and yet hold half of a pair of surrogates, which is no
  character. That only matters to who wants it. The same goes for a number that is too great.
* A number that the text ends in the middle of is `Fault.early` to who wants it, but to who passes
  over it it is malformed.
* The digits of a number are taken in while a word of 64 bits can hold them. Of the others, those
  before the point only count for the size of the number, and those after it not at all.
-/

namespace QueryWindow

/-- Why a text is not JSON. -/
inductive Fault
  /-- It ends too early. -/
  | early
  /-- It has something that cannot stand there. -/
  | malformed
  deriving DecidableEq

/-- A word of a JSON text. -/
inductive Token
  | openBrace
  | closeBrace
  | openBracket
  | closeBracket
  | colon
  | comma
  | null
  | bool (b : Bool)
  | number (n : JsonNumber)
  | text (content : String)
  /-- What cannot be read, and whether it started with a quote. -/
  | flawed (flaw : Flaw Fault) (quoted : Bool)
  deriving DecidableEq

namespace Token

/-- The last token of a text that stops being JSON, outside of quotes. -/
def stop (fault : Fault) : Token × List Char := (flawed (.fatal fault) false, [])

/-! ### Words -/

/-- The rest of a word of small letters, and the token it makes. -/
def scanWord (token : Token) : List Char → List Char → Token × List Char
  | [], cs => (token, cs)
  | _ :: _, [] => stop .early
  | w :: ws, c :: cs => if w = c then scanWord token ws cs else stop .malformed

/-! ### Texts -/

/-- The value of a hexadecimal digit, in either case. -/
def hexDigit? (c : Char) : Option Nat :=
  if c.isDigit then some (c.toNat - 48)
  else if 'a' ≤ c ∧ c ≤ 'f' then some (c.toNat - 87)
  else if 'A' ≤ c ∧ c ≤ 'F' then some (c.toNat - 55)
  else none

/-- The value of four hexadecimal digits. -/
def hexDigits? (a b c d : Char) : Option Nat := do
  return (((← hexDigit? a) * 16 + (← hexDigit? b)) * 16 + (← hexDigit? c)) * 16 + (← hexDigit? d)

/-- The character that a letter after a backslash stands for. -/
def escaped? : Char → Option Char
  | '"' => some '"'
  | '\\' => some '\\'
  | '/' => some '/'
  | 'b' => some '\x08'
  | 'f' => some '\x0c'
  | 'n' => some '\n'
  | 'r' => some '\r'
  | 't' => some '\t'
  | _ => none

/-- The number of bytes of a text. -/
def utf8Length (cs : List Char) : Nat := cs.foldl (fun n c => n + c.utf8Size) 0

/-- What is left of a text cannot hold the four bytes of a number of a character. -/
def lacksFourBytes (cs : List Char) : Bool :=
  utf8Length (cs.take 4) < 4

/-- The first half of a pair of surrogates. -/
def isHighSurrogate (n : Nat) : Bool := 0xD800 ≤ n && n ≤ 0xDBFF

/-- The second half of a pair of surrogates. -/
def isLowSurrogate (n : Nat) : Bool := 0xDC00 ≤ n && n ≤ 0xDFFF

/-- The character of a pair of surrogates. -/
def ofSurrogates (high low : Nat) : Char :=
  Char.ofNat (0x10000 + (high - 0xD800) * 0x400 + (low - 0xDC00))

/-- The token for a text between quotes that breaks off. If half of a pair of surrogates came before
that, this is what is wrong with it for who wants it. -/
def stopText (unpaired : Bool) (fault : Fault) : Token × List Char :=
  (flawed ⟨if unpaired then .malformed else fault, some fault⟩ true, [])

/-- What may follow the first half of a pair: the second half, something else, or nothing. -/
inductive PairEnd
  | low (n : Nat)
  /-- The text ends before it can be told. -/
  | early
  | other
  deriving DecidableEq

/-- What follows the first half of a pair. -/
def pairEnd : List Char → PairEnd
  | [] => .early
  | ['\\'] => .early
  | '\\' :: 'u' :: cs =>
    if lacksFourBytes cs then .early
    else
      match cs with
      | a :: b :: c :: d :: _ =>
        match hexDigits? a b c d with
        | some n => if isLowSurrogate n then .low n else .other
        | none => .other
      | _ => .other
  | _ => .other

/-- The rest of a text after its opening quote. What was read so far is in reverse order; `unpaired`
tells whether half of a pair of surrogates was among it. The number is how many characters belong to
the character read last. -/
def scanText (read : List Char) (unpaired : Bool) : Nat → List Char → Token × List Char
  | skip + 1, _ :: cs => scanText read unpaired skip cs
  | _, [] => stopText unpaired .early
  | 0, '"' :: cs =>
    if unpaired then (flawed (.skippable .malformed) true, cs)
    else (text (String.ofList read.reverse), cs)
  | 0, '\\' :: 'u' :: cs =>
    if lacksFourBytes cs then stopText unpaired .early
    else
      match cs with
      | a :: b :: c :: d :: rest =>
        match hexDigits? a b c d with
        | none => stopText unpaired .malformed
        | some n =>
          if isHighSurrogate n then
            match pairEnd rest with
            -- The four digits, and the backslash, letter and digits of the second half.
            | .low m => scanText (ofSurrogates n m :: read) unpaired 10 cs
            | .early => stopText unpaired .early
            -- What follows is read again, by itself.
            | .other => scanText read true 4 cs
          else if isLowSurrogate n then scanText read true 4 cs
          else scanText (Char.ofNat n :: read) unpaired 4 cs
      | _ => stopText unpaired .malformed
  | 0, '\\' :: c :: cs =>
    match escaped? c with
    | some e => scanText (e :: read) unpaired 0 cs
    | none => stopText unpaired .malformed
  | 0, c :: cs =>
    -- No character is left that the backslash could stand before.
    if c = '\\' then stopText unpaired .early
    else if c.toNat < 0x20 then stopText unpaired .malformed
    else scanText (c :: read) unpaired 0 cs

/-! ### Numbers -/

/-- The token for a number that breaks off: to who passes over it, it is always malformed. -/
def stopNumber (rest : List Char) : Token × List Char :=
  (flawed ⟨if rest.isEmpty then .early else .malformed, some .malformed⟩ false, [])

/-- The digits at the start of a text, of which there must be one. -/
def scanDigits (cs : List Char) : Option (List Char × List Char) :=
  let digits := cs.takeWhile Char.isDigit
  if digits.isEmpty then none else some (digits, cs.dropWhile Char.isDigit)

/-- Appends digits to a number while a word of 64 bits can hold it: the number, and how many of the
digits are in it. -/
def takeIn (n : Nat) : List Char → Nat × Nat
  | [] => (n, 0)
  | c :: cs =>
    let longer := n * 10 + Digits.valueOfDigit c
    if longer < wordLimit then
      let (n, count) := takeIn longer cs
      (n, count + 1)
    else (n, 0)

/-- The number for whole digits, digits after the point and an exponent. -/
def real (negative : Bool) (whole fraction : List Char) (exponent : Int) : Token :=
  let (n, wholeCount) := takeIn 0 whole
  let (n, fractionCount) := takeIn n fraction
  let beyond : Int := whole.length - wholeCount
  match Binary64.ofDecimal? n (exponent + beyond - fractionCount) with
  | some magnitude => number (.real negative magnitude)
  | none => flawed (.skippable .malformed) false

/-- The number for whole digits alone, an integer if a word can hold it. -/
def integer (negative : Bool) (digits : List Char) : Token :=
  let n := Digits.value 10 digits
  if negative then
    if n ≠ 0 ∧ n ≤ signedWordLimit then number (.integer (-n)) else real true digits [] 0
  else if n < wordLimit then number (.integer n)
  else real false digits [] 0

/-- The sign of an exponent. -/
def scanExponentSign : List Char → Bool × List Char
  | '-' :: cs => (true, cs)
  | '+' :: cs => (false, cs)
  | cs => (false, cs)

/-- The exponent of a number after its letter. -/
def scanExponent (negative : Bool) (whole fraction cs : List Char) : Token × List Char :=
  let (negativeExponent, cs) := scanExponentSign cs
  match scanDigits cs with
  | none => stopNumber cs
  | some (digits, rest) =>
    let exponent : Int := min (Digits.value 10 digits) signedHalfWordLimit
    (real negative whole fraction (if negativeExponent then -exponent else exponent), rest)

/-- The fraction of a number after its point. -/
def scanFraction (negative : Bool) (whole cs : List Char) : Token × List Char :=
  match scanDigits cs with
  | none => stopNumber cs
  | some (fraction, 'e' :: rest) | some (fraction, 'E' :: rest) =>
    scanExponent negative whole fraction rest
  | some (fraction, rest) => (real negative whole fraction 0, rest)

/-- The rest of a number after its sign. A zero is the only digit before the point. -/
def scanNumber (negative : Bool) (cs : List Char) : Token × List Char :=
  match scanDigits cs with
  | none => stopNumber cs
  -- A zero is followed by another digit.
  | some ('0' :: _ :: _, _) => stop .malformed
  | some (digits, '.' :: rest) => scanFraction negative digits rest
  | some (digits, 'e' :: rest) | some (digits, 'E' :: rest) => scanExponent negative digits [] rest
  | some (digits, rest) => (integer negative digits, rest)

/-! ### All tokens -/

/-- The blanks of JSON. -/
def isJsonBlank (c : Char) : Bool := c = ' ' || c = '\t' || c = '\n' || c = '\r'

/-- The token that starts with a character, and what follows it. -/
def scan (c : Char) (cs : List Char) : Token × List Char :=
  match c with
  | '\x7b' => (openBrace, cs)
  | '\x7d' => (closeBrace, cs)
  | '[' => (openBracket, cs)
  | ']' => (closeBracket, cs)
  | ':' => (colon, cs)
  | ',' => (comma, cs)
  | 'n' => scanWord null ['u', 'l', 'l'] cs
  | 't' => scanWord (bool true) ['r', 'u', 'e'] cs
  | 'f' => scanWord (bool false) ['a', 'l', 's', 'e'] cs
  | '"' => scanText [] false 0 cs
  | '-' => scanNumber true cs
  | c =>
    if c.isDigit then scanNumber false (c :: cs)
    else stop .malformed

/-- The tokens of a text. -/
def scanAll (cs : List Char) : List Token :=
  match cs with
  | [] => []
  | c :: cs =>
    if isJsonBlank c then scanAll cs
    else
      let (token, rest) := scan c cs
      -- Every token takes its first character; the test lets the recursion know.
      if rest.length ≤ cs.length then token :: scanAll rest else [token]
termination_by cs.length
decreasing_by all_goals simp only [List.length_cons]; omega

end Token

end QueryWindow
