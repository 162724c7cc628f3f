import QueryWindow.Text.Quoted

/-!
# QueryWindow.Proofs.Text.Quoting

**Quoted text can be read back** (`Quoted.decode_encode`), whatever characters it has. The decoder
goes through the inside of the quotes one character at a time and knows what it is inside of
(`Quoted.Stage`); from the start of what is written for one character it comes to its end with that
character, whatever follows (`Quoted.decodeFrom_encodeChar`), so that no two texts are written the
same.

Only printable characters are written (`Quoted.printable_encode`). A character that is not
printable is one of the digits of its code point.
-/

namespace QueryWindow

/-! ### Printable characters -/

theorem inRanges_eq_false {ranges : List (Nat × Nat)} {n : Nat}
    (h : ranges.all (fun range => 0x7F ≤ range.1) = true) (hn : n < 0x7F) :
    inRanges ranges n = false := by
  rw [inRanges, List.any_eq_false]
  intro range hrange
  have hbegin : 0x7F ≤ range.1 := of_decide_eq_true (List.all_eq_true.1 h range hrange)
  simp only [Bool.and_eq_true, decide_eq_true_eq, not_and]
  omega

/-- All that a keyboard without accents has is printable. -/
theorem isPrintable_of_ascii {c : Char} (h : 0x20 ≤ c.toNat) (h' : c.toNat < 0x7F) :
    isPrintable c = true := by
  have hcontrol : isControl c = false := by
    simp only [isControl, Bool.or_eq_false_iff, Bool.and_eq_false_iff, decide_eq_false_iff_not]
    omega
  have hseparator : isSeparator c = false := inRanges_eq_false (by decide) h'
  have hformatting : isFormatting c = false := inRanges_eq_false (by decide) h'
  have hignorable : isIgnorable c = false := inRanges_eq_false (by decide) h'
  have hprivate : isPrivate c = false := inRanges_eq_false (by decide) h'
  have hunassigned : isUnassigned c = false := inRanges_eq_false (by decide +kernel) h'
  have hextends : extendsGrapheme c = false := inRanges_eq_false (by decide +kernel) h'
  simp [isPrintable, hcontrol, hseparator, hformatting, hignorable, hprivate, hunassigned,
    hextends]

/-- A row of printable characters. -/
def Printable (cs : List Char) : Prop := ∀ c ∈ cs, isPrintable c = true

namespace Printable

variable {cs ds : List Char} {c : Char}

theorem nil : Printable [] := nofun

theorem cons (hc : isPrintable c = true) (h : Printable cs) : Printable (c :: cs) :=
  List.forall_mem_cons.2 ⟨hc, h⟩

theorem append (h : Printable cs) (hmore : Printable ds) : Printable (cs ++ ds) := fun c hc =>
  (List.mem_append.1 hc).elim (h c) (hmore c)

theorem of_ascii (h : cs.all (fun c => 0x20 ≤ c.toNat ∧ c.toNat < 0x7F)) : Printable cs := by
  intro c hc
  have hascii := List.all_eq_true.1 h c hc
  rw [decide_eq_true_eq] at hascii
  exact isPrintable_of_ascii hascii.1 hascii.2

end Printable

namespace Quoted

/-! ### Reading what is between quotes -/

/-- What a character between quotes is part of. -/
inductive Stage
  /-- Nothing, or text that stands for itself. -/
  | plain
  /-- What a backslash begins. -/
  | escape
  /-- A code point, before its brace. -/
  | brace
  /-- A code point, by its digits so far. -/
  | number (digits : List Char)

/-- A digit in base 16, in lower case. -/
def isHexDigit (c : Char) : Bool := c.isDigit || c ∈ ['a', 'b', 'c', 'd', 'e', 'f']

/-- The character that a letter after a backslash stands for. -/
def ofEscape? : Char → Option Char
  | '0' => some '\x00'
  | 't' => some '\t'
  | 'n' => some '\n'
  | 'r' => some '\r'
  | '"' => some '"'
  | '\'' => some '\''
  | '\\' => some '\\'
  | _ => none

/-- The character whose code point has the given digits. -/
def ofDigits? (digits : List Char) : Option Char :=
  if digits ≠ [] ∧ digits.all isHexDigit ∧ (Digits.value 16 digits).isValidChar then
    some (Char.ofNat (Digits.value 16 digits))
  else none

/-- The text that the rest of what is between quotes stands for. -/
def decodeFrom : Stage → List Char → Option (List Char)
  | .plain, [] => some []
  | .plain, '\\' :: cs => decodeFrom .escape cs
  | .plain, '"' :: _ => none
  | .plain, c :: cs => (decodeFrom .plain cs).map (c :: ·)
  | .escape, 'u' :: cs => decodeFrom .brace cs
  | .escape, c :: cs => do return (← ofEscape? c) :: (← decodeFrom .plain cs)
  | .brace, '\x7b' :: cs => decodeFrom (.number []) cs
  | .number digits, '\x7d' :: cs => do return (← ofDigits? digits) :: (← decodeFrom .plain cs)
  | .number digits, c :: cs => decodeFrom (.number (digits ++ [c])) cs
  | _, _ => none

/-- The text that the inside of quotes stands for, if it stands for any. -/
def decode (cs : List Char) : Option (List Char) := decodeFrom .plain cs

/-! ### Digits -/

theorem exists_of_mem_ofNat {n : Nat} {c : Char} (h : c ∈ Digits.ofNat 16 n) :
    ∃ d < 16, c = Nat.digitChar d := by
  induction n using Nat.strongRecOn with
  | _ n ih =>
    unfold Digits.ofNat at h
    split at h
    · rename_i hn
      rcases List.mem_append.1 h with h | h
      · exact ih _ (Nat.div_lt_self (by omega) (by omega)) h
      · exact ⟨_, Nat.mod_lt _ (by decide), List.mem_singleton.1 h⟩
    · rename_i hn
      exact ⟨n, by omega, List.mem_singleton.1 h⟩

theorem isHexDigit_of_mem_ofNat {n : Nat} {c : Char} (h : c ∈ Digits.ofNat 16 n) :
    isHexDigit c = true := by
  have hall : ∀ d < 16, isHexDigit (Nat.digitChar d) = true := by decide
  obtain ⟨d, hd, rfl⟩ := exists_of_mem_ofNat h
  exact hall d hd

/-- The digits of a character's code point stand for that character. -/
theorem ofDigits?_ofNat (c : Char) : ofDigits? (Digits.ofNat 16 c.toNat) = some c := by
  have hvalue : Digits.value 16 (Digits.ofNat 16 c.toNat) = c.toNat :=
    Digits.value_ofNat (by decide) (by decide) _
  have hdigits : (Digits.ofNat 16 c.toNat).all isHexDigit = true :=
    List.all_eq_true.2 fun _ => isHexDigit_of_mem_ofNat
  rw [ofDigits?, hvalue, if_pos ⟨Digits.ofNat_ne_nil 16 _, hdigits, c.valid⟩, Char.ofNat_toNat]

/-- Digits are collected up to the brace after them. -/
theorem decodeFrom_number {digits : List Char} (h : ∀ c ∈ digits, isHexDigit c = true)
    (read rest : List Char) : decodeFrom (.number read) (digits ++ '\x7d' :: rest) =
      (do return (← ofDigits? (read ++ digits)) :: (← decodeFrom .plain rest)) := by
  induction digits generalizing read with
  | nil => rw [List.append_nil]; rfl
  | cons c digits ih =>
      -- A digit is not the brace, so that it is collected.
      have hc : c ≠ '\x7d' := by
        rintro rfl
        exact absurd (h _ List.mem_cons_self) (by decide)
      have hrest := ih (fun d hd => h d (List.mem_cons_of_mem _ hd)) (read ++ [c])
      rw [List.append_assoc, List.singleton_append] at hrest
      rw [List.cons_append, decodeFrom, hrest]
      exact hc

/-! ### Reading what was written -/

theorem decodeFrom_encodeByNumber (c : Char) (rest : List Char) :
    decodeFrom .plain (encodeByNumber c ++ rest) = (decodeFrom .plain rest).map (c :: ·) := by
  have hnumber := decodeFrom_number (fun _ => isHexDigit_of_mem_ofNat (n := c.toNat)) [] rest
  rw [List.nil_append, ofDigits?_ofNat] at hnumber
  rw [encodeByNumber, List.append_assoc, List.append_assoc]
  refine Eq.trans hnumber ?_
  cases decodeFrom .plain rest <;> rfl

/-- What is written for a character is read as that character, whatever follows. -/
theorem decodeFrom_encodeChar (c : Char) (rest : List Char) :
    decodeFrom .plain (encodeChar c ++ rest) = (decodeFrom .plain rest).map (c :: ·) := by
  have hescape : ∀ d e : Char, d ≠ 'u' → ofEscape? d = some e →
      decodeFrom .escape (d :: rest) = (decodeFrom .plain rest).map (e :: ·) := by
    intro d e hd he
    rw [decodeFrom, he]
    · cases decodeFrom .plain rest <;> rfl
    · exact hd
  unfold encodeChar
  split
  · exact hescape '0' '\x00' (by decide) rfl
  · exact hescape 't' '\t' (by decide) rfl
  · exact hescape 'n' '\n' (by decide) rfl
  · exact hescape 'r' '\r' (by decide) rfl
  · exact hescape '"' '"' (by decide) rfl
  · exact hescape '\\' '\\' (by decide) rfl
  · rename_i hquote hbackslash
    split
    · rw [List.singleton_append, decodeFrom]
      · exact hbackslash
      · exact hquote
    · exact decodeFrom_encodeByNumber c rest

/-- **Quoted text is read back.** -/
theorem decode_encode (cs : List Char) : decode (encode cs) = some cs := by
  induction cs with
  | nil => rfl
  | cons c cs ih =>
      rw [decode, encode_cons, decodeFrom_encodeChar, ← decode, ih]
      rfl

example : decode "a\\u\x7b202e\x7d\\\"".toList = some ['a', '\u202E', '"'] ∧
    decode "a\"".toList = none := by decide

theorem toList_quote (text : String) :
    (quote text).toList = '"' :: (encode text.toList ++ ['"']) := by
  rw [quote, String.toList_ofList, List.cons_append]

/-- Different texts are quoted differently. -/
theorem quote_inj {a b : String} : quote a = quote b ↔ a = b := by
  refine ⟨fun h => ?_, congrArg quote⟩
  have hlist := congrArg String.toList h
  rw [toList_quote, toList_quote] at hlist
  have hinside := congrArg decode (List.append_cancel_right (List.cons.inj hlist).2)
  rw [decode_encode, decode_encode] at hinside
  exact String.toList_inj.1 (Option.some.inj hinside)

/-! ### What is written -/

theorem printable_ofNat (n : Nat) : Printable (Digits.ofNat 16 n) := by
  have hascii : ∀ d < 16, 0x20 ≤ (Nat.digitChar d).toNat ∧ (Nat.digitChar d).toNat < 0x7F := by
    decide
  intro c hc
  obtain ⟨d, hd, rfl⟩ := exists_of_mem_ofNat hc
  exact isPrintable_of_ascii (hascii d hd).1 (hascii d hd).2

theorem printable_encodeByNumber (c : Char) : Printable (encodeByNumber c) :=
  ((Printable.of_ascii (by decide)).append (printable_ofNat _)).append (.of_ascii (by decide))

theorem printable_encodeChar (c : Char) : Printable (encodeChar c) := by
  unfold encodeChar
  split
  iterate 6 exact .of_ascii (by decide)
  split
  · rename_i hprintable
    exact .cons hprintable .nil
  · exact printable_encodeByNumber c

/-- **All that is written between quotes is printable.** -/
theorem printable_encode (cs : List Char) : Printable (encode cs) := by
  induction cs with
  | nil => exact .nil
  | cons c cs ih => exact (printable_encodeChar c).append ih

theorem printable_quote (text : String) : Printable (quote text).toList := by
  rw [toList_quote]
  exact .cons (isPrintable_of_ascii (by decide) (by decide))
    ((printable_encode _).append (.of_ascii (by decide)))

end Quoted

end QueryWindow
