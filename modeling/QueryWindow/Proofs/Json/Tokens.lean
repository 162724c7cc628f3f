import QueryWindow.Json.Token
import QueryWindow.Json.Write
import QueryWindow.Proofs.Text.Numerals

/-!
# QueryWindow.Proofs.Json.Tokens

**What is written of a JSON value has the tokens of that value** (`Token.scanAll_write`). Between
quotes every character is read as itself, whether it was written as it is or by a backslash, so that
only the quote at the end ends a text. A number has no such end; what keeps it apart from the rest
is that neither a comma nor a closing bracket goes on with it (`Token.EndsNumber`).

Numbers that are no integers are left out, as nothing is said here of the digits by which they are
written.
-/

namespace QueryWindow

/-! ### Values and their tokens -/

/-- The number is an integer that a word of 64 bits can hold, with a sign if it is negative. -/
def JsonNumber.IsWord : JsonNumber → Prop
  | integer n => -(signedWordLimit : Int) ≤ n ∧ n < wordLimit
  | real _ _ => False

namespace Json

/-- All numbers of a value are integers that a word can hold. -/
inductive OfWords : Json Empty → Prop
  | null : OfWords null
  | bool (b : Bool) : OfWords (bool b)
  | number {n : JsonNumber} (h : n.IsWord) : OfWords (number n)
  | text (content : String) : OfWords (text content)
  | array {items : List (Json Empty)} {cut : Option (Flaw Empty)}
      (h : ∀ item ∈ items, OfWords item) : OfWords (array items cut)
  | object {members : List (JsonMember Empty)} {cut : Option (Flaw Empty)}
      (h : ∀ member ∈ members, OfWords member.2) : OfWords (object members cut)

mutual

/-- The tokens of a value. -/
def tokens : Json Empty → List Token
  | null => [.null]
  | bool b => [.bool b]
  | number n => [.number n]
  | text content => [.text content]
  | array items _ => .openBracket :: itemTokens items ++ [.closeBracket]
  | object members _ => .openBrace :: memberTokens members ++ [.closeBrace]

/-- The tokens of items with commas between them. -/
def itemTokens : List (Json Empty) → List Token
  | [] => []
  | [item] => tokens item
  | item :: items => tokens item ++ .comma :: itemTokens items

/-- The tokens of members with commas between them. -/
def memberTokens : List (String × Json Empty) → List Token
  | [] => []
  | [(name, value)] => .text name :: .colon :: tokens value
  | (name, value) :: members =>
    .text name :: .colon :: tokens value ++ .comma :: memberTokens members

end

theorem writeItems_cons_cons (item next : Json Empty) (items : List (Json Empty)) :
    writeItems (item :: next :: items) = write item ++ ',' :: writeItems (next :: items) := rfl

theorem itemTokens_cons_cons (item next : Json Empty) (items : List (Json Empty)) :
    itemTokens (item :: next :: items) = tokens item ++ .comma :: itemTokens (next :: items) := rfl

theorem writeMembers_cons_cons (name : String) (value : Json Empty) (next : JsonMember Empty)
    (members : List (JsonMember Empty)) : writeMembers ((name, value) :: next :: members) =
      writeText name ++ ':' :: write value ++ ',' :: writeMembers (next :: members) := rfl

theorem memberTokens_cons_cons (name : String) (value : Json Empty) (next : JsonMember Empty)
    (members : List (JsonMember Empty)) : memberTokens ((name, value) :: next :: members) =
      .text name :: .colon :: tokens value ++ .comma :: memberTokens (next :: members) := rfl

end Json

namespace Token

variable {c : Char} {cs rest : List Char}

/-! ### Texts -/

theorem hexDigit?_digitChar : ∀ n < 16, hexDigit? (Nat.digitChar n) = some n := by decide

/-- Every character has a byte at least. -/
theorem lacksFourBytes_cons (a b c d : Char) (rest : List Char) :
    lacksFourBytes (a :: b :: c :: d :: rest) = false := by
  have ha := a.utf8Size_pos
  have hb := b.utf8Size_pos
  have hc := c.utf8Size_pos
  have hd := d.utf8Size_pos
  refine decide_eq_false ?_
  simp only [utf8Length, List.take_succ_cons, List.take_zero, List.foldl_cons, List.foldl_nil]
  omega

theorem leftpad_hex {n : Nat} (h : n < 256) : (Digits.ofNat 16 n).leftpad 4 '0' =
    ['0', '0', Nat.digitChar (n / 16), Nat.digitChar (n % 16)] := by
  unfold Digits.ofNat
  split
  · unfold Digits.ofNat
    rw [if_neg (by omega)]
    rfl
  · have hhigh : n / 16 = 0 := by omega
    have hlow : n % 16 = n := by omega
    rw [hhigh, hlow]
    rfl

theorem hexDigits?_leftpad {n : Nat} (h : n < 256) :
    hexDigits? '0' '0' (Nat.digitChar (n / 16)) (Nat.digitChar (n % 16)) = some n := by
  have hzero : hexDigit? '0' = some 0 := rfl
  have hvalue : ((0 * 16 + 0) * 16 + n / 16) * 16 + n % 16 = n := by omega
  unfold hexDigits?
  rw [hzero, hexDigit?_digitChar _ (by omega), hexDigit?_digitChar _ (by omega)]
  exact congrArg some hvalue

/-- A control, written by its number, is read as itself. -/
theorem scanText_control (h : c.toNat < 0x20) (read : List Char) (unpaired : Bool) :
    scanText read unpaired 0
      ('\\' :: 'u' :: '0' :: '0' :: Nat.digitChar (c.toNat / 16) :: Nat.digitChar (c.toNat % 16) ::
        rest) = scanText (c :: read) unpaired 0 rest := by
  have hhigh : isHighSurrogate c.toNat = false := by
    simp only [isHighSurrogate, Bool.and_eq_false_iff, decide_eq_false_iff_not]
    omega
  have hlow : isLowSurrogate c.toNat = false := by
    simp only [isLowSurrogate, Bool.and_eq_false_iff, decide_eq_false_iff_not]
    omega
  rw [scanText, lacksFourBytes_cons, hexDigits?_leftpad (by omega)]
  simp only [hhigh, hlow, Char.ofNat_toNat]
  rfl

/-- Every character is read as itself from how it is written between quotes. -/
theorem scanText_writeChar (c : Char) (read : List Char) (unpaired : Bool) (rest : List Char) :
    scanText read unpaired 0 (Json.writeChar c ++ rest) = scanText (c :: read) unpaired 0 rest := by
  unfold Json.writeChar
  by_cases hbackslash : c = '"' ∨ c = '\\'
  · rw [if_pos hbackslash]
    rcases hbackslash with rfl | rfl <;> rfl
  · rw [if_neg hbackslash]
    rw [not_or] at hbackslash
    by_cases hcontrol : c.toNat < 0x20
    · rw [if_pos hcontrol, leftpad_hex (by omega)]
      exact scanText_control hcontrol read unpaired
    · rw [if_neg hcontrol, List.singleton_append, scanText]
      · rw [if_neg hbackslash.2, if_neg hcontrol]
      -- The character neither ends the text nor starts a sequence with a backslash.
      · exact hbackslash.1
      · exact fun _ heq => absurd heq hbackslash.2
      · exact fun _ _ heq => absurd heq hbackslash.2

/-- A text is read up to the quote at its end. -/
theorem scanText_write (content read rest : List Char) :
    scanText read false 0 (content.flatMap Json.writeChar ++ '"' :: rest) =
      (text (String.ofList (read.reverse ++ content)), rest) := by
  induction content generalizing read with
  | nil => simp [scanText]
  | cons c content ih =>
      rw [List.flatMap_cons, List.append_assoc, scanText_writeChar, ih]
      simp

/-! ### Numbers -/

/-- What follows does not go on with a number. -/
def EndsNumber (rest : List Char) : Prop :=
  ∀ c ∈ rest.head?, c.isDigit = false ∧ c ≠ '.' ∧ c ≠ 'e' ∧ c ≠ 'E'

theorem scanDigits_append {digits : List Char} (hne : digits ≠ [])
    (hdigits : ∀ c ∈ digits, c.isDigit = true) (hrest : EndsNumber rest) :
    scanDigits (digits ++ rest) = some (digits, rest) := by
  have hends : ∀ c ∈ rest.head?, c.isDigit = false := fun c hc => (hrest c hc).1
  unfold scanDigits
  rw [Digits.takeWhile_append hdigits hends, Digits.dropWhile_append hdigits hends]
  exact if_neg (by simpa using hne)

/-- The digits of a number are read as a whole, for none but zero starts with a zero. -/
theorem scanNumber_ofNat (negative : Bool) (n : Nat) (hrest : EndsNumber rest) :
    scanNumber negative (Digits.ofNat 10 n ++ rest) =
      (integer negative (Digits.ofNat 10 n), rest) := by
  have hscan := scanDigits_append (Digits.ofNat_ne_nil 10 n)
    (fun c hc => Digits.isDigit_of_mem_ofNat hc) hrest
  unfold scanNumber
  rw [hscan]
  generalize hdigits : Digits.ofNat 10 n = digits
  -- Neither a zero before the other digits nor a point or an exponent behind them is possible.
  split <;> rename_i heq
  · cases heq
  · cases heq
    exact absurd hdigits (Digits.ofNat_ne_zero_cons n _ _)
  · cases heq
    exact absurd rfl (hrest _ rfl).2.1
  · cases heq
    exact absurd rfl (hrest _ rfl).2.2.1
  · cases heq
    exact absurd rfl (hrest _ rfl).2.2.2
  · cases heq
    rfl

/-- A token that starts with a digit is a number. -/
theorem scan_of_isDigit (hc : c.isDigit = true) : scan c cs = scanNumber false (c :: cs) := by
  unfold scan
  split
  case h_12 => exact if_pos hc
  -- In all other cases the character is one of those that start no number, or the sign.
  all_goals exact absurd hc (by decide)

theorem isJsonBlank_of_isDigit (hc : c.isDigit = true) : isJsonBlank c = false := by
  simp only [isJsonBlank, Bool.or_eq_false_iff, decide_eq_false_iff_not]
  refine ⟨⟨⟨?_, ?_⟩, ?_⟩, ?_⟩
  all_goals
    rintro rfl
    cases hc

theorem integer_ofNat {n : Int} (h : (JsonNumber.integer n).IsWord) :
    integer (decide (n < 0)) (Digits.ofNat 10 n.natAbs) = number (.integer n) := by
  have hvalue : Digits.value 10 (Digits.ofNat 10 n.natAbs) = n.natAbs :=
    Digits.value_ofNat (by decide) (by decide) _
  obtain ⟨hlow, hhigh⟩ := h
  unfold integer
  rw [hvalue]
  by_cases hnegative : n < 0
  · have hwhole : -(n.natAbs : Int) = n := by omega
    rw [decide_eq_true hnegative, if_pos rfl, if_pos (by omega), hwhole]
  · have hwhole : (n.natAbs : Int) = n := by omega
    rw [decide_eq_false hnegative, if_neg Bool.false_ne_true, if_pos (by omega), hwhole]

theorem endsNumber_nil : EndsNumber [] := by
  intro c hc
  cases hc

/-- Commas and closing brackets do not go on with a number. -/
theorem endsNumber_cons (hc : c = ',' ∨ c = ']' ∨ c = '\x7d') (cs : List Char) :
    EndsNumber (c :: cs) := by
  intro d hd
  obtain rfl := Option.some.inj hd
  rcases hc with rfl | rfl | rfl <;> decide

/-! ### All tokens -/

/-- A text that starts with a token has this token and those of what follows it. -/
theorem scanAll_cons {token : Token} (hc : isJsonBlank c = false)
    (hscan : scan c cs = (token, rest)) (hrest : rest <:+ cs) :
    scanAll (c :: cs) = token :: scanAll rest := by
  rw [scanAll, hc, hscan]
  exact if_pos hrest.length_le

/-- A token of one character. -/
theorem scanAll_mark {token : Token} (hc : isJsonBlank c = false)
    (hscan : scan c cs = (token, cs)) : scanAll (c :: cs) = token :: scanAll cs :=
  scanAll_cons hc hscan (List.suffix_refl cs)

theorem scanAll_writeText (content : String) (rest : List Char) :
    scanAll (Json.writeText content ++ rest) = .text content :: scanAll rest := by
  have hscan := scanText_write content.toList [] rest
  rw [List.reverse_nil, List.nil_append, String.ofList_toList] at hscan
  rw [Json.writeText, List.cons_append, List.cons_append, List.append_assoc, List.singleton_append]
  exact scanAll_cons (by decide) hscan ((List.suffix_cons _ rest).trans (List.suffix_append _ _))

theorem scanAll_number {n : JsonNumber} (h : n.IsWord) (hrest : EndsNumber rest) :
    scanAll (n.text ++ rest) = .number n :: scanAll rest := by
  cases n with
  | real negative magnitude => exact h.elim
  | integer n =>
      have hscan := scanNumber_ofNat (decide (n < 0)) n.natAbs hrest
      rw [integer_ofNat h] at hscan
      have htext : (JsonNumber.integer n).text = Digits.ofInt n := rfl
      rw [htext, Digits.ofInt]
      by_cases hnegative : n < 0
      · rw [decide_eq_true hnegative] at hscan
        rw [if_pos hnegative]
        exact scanAll_cons (by decide) hscan (List.suffix_append _ rest)
      · rw [decide_eq_false hnegative] at hscan
        rw [if_neg hnegative]
        obtain ⟨c, cs, hdigits⟩ := List.exists_cons_of_ne_nil (Digits.ofNat_ne_nil 10 n.natAbs)
        have hc : c.isDigit = true :=
          Digits.isDigit_of_mem_ofNat (hdigits ▸ List.mem_cons_self)
        rw [hdigits] at hscan ⊢
        exact scanAll_cons (isJsonBlank_of_isDigit hc) ((scan_of_isDigit hc).trans hscan)
          (List.suffix_append cs rest)

/-- The text of a value has the tokens of the value, whatever follows. -/
def ScansTo (value : Json Empty) : Prop :=
  ∀ rest, EndsNumber rest → scanAll (value.write ++ rest) = value.tokens ++ scanAll rest

theorem scanAll_writeItems {items : List (Json Empty)} (h : ∀ item ∈ items, ScansTo item)
    (hrest : EndsNumber rest) :
    scanAll (Json.writeItems items ++ rest) = Json.itemTokens items ++ scanAll rest := by
  induction items with
  | nil => rfl
  | cons item items ih =>
      have hitem : ScansTo item := h item List.mem_cons_self
      have hitems := ih fun item hmem => h item (List.mem_cons_of_mem _ hmem)
      cases items with
      | nil => exact hitem rest hrest
      | cons next items =>
          have hcomma : EndsNumber (',' :: (Json.writeItems (next :: items) ++ rest)) :=
            endsNumber_cons (.inl rfl) _
          rw [Json.writeItems_cons_cons, Json.itemTokens_cons_cons, List.append_assoc,
            List.cons_append, hitem _ hcomma, scanAll_mark (by decide) rfl, hitems,
            List.append_assoc, List.cons_append]

/-- The name of a member, the colon after it and the value. -/
theorem scanAll_member {value : Json Empty} (h : ScansTo value) (name : String)
    (hrest : EndsNumber rest) :
    scanAll (Json.writeText name ++ ':' :: (value.write ++ rest)) =
      .text name :: .colon :: (value.tokens ++ scanAll rest) := by
  rw [scanAll_writeText, scanAll_mark (by decide) rfl, h rest hrest]

theorem scanAll_writeMembers {members : List (JsonMember Empty)}
    (h : ∀ member ∈ members, ScansTo member.2) (hrest : EndsNumber rest) :
    scanAll (Json.writeMembers members ++ rest) = Json.memberTokens members ++ scanAll rest := by
  induction members with
  | nil => rfl
  | cons member members ih =>
      obtain ⟨name, value⟩ := member
      have hvalue : ScansTo value := h (name, value) List.mem_cons_self
      have hmembers := ih fun member hmem => h member (List.mem_cons_of_mem _ hmem)
      cases members with
      | nil =>
          have hmember := scanAll_member hvalue name hrest
          rw [← List.cons_append, ← List.append_assoc] at hmember
          exact hmember
      | cons next members =>
          have hcomma : EndsNumber (',' :: (Json.writeMembers (next :: members) ++ rest)) :=
            endsNumber_cons (.inl rfl) _
          have hmember := scanAll_member hvalue name hcomma
          rw [scanAll_mark (by decide) rfl, hmembers] at hmember
          rw [Json.writeMembers_cons_cons, Json.memberTokens_cons_cons]
          simp only [List.append_assoc, List.cons_append] at hmember ⊢
          exact hmember

/-- **What is written of a value has the tokens of that value.** -/
theorem scanAll_write {value : Json Empty} (h : value.OfWords) : ScansTo value := by
  induction h with
  | null => exact fun rest _ => scanAll_cons (by decide) rfl (List.suffix_append _ rest)
  | bool b =>
      intro rest _
      cases b with
      | false => exact scanAll_cons (by decide) rfl (List.suffix_append _ rest)
      | true => exact scanAll_cons (by decide) rfl (List.suffix_append _ rest)
  | number h => exact fun rest hrest => scanAll_number h hrest
  | text content => exact fun rest _ => scanAll_writeText content rest
  | @array items _ _ ih =>
      intro rest _
      have hitems := scanAll_writeItems ih (endsNumber_cons (.inr (.inl rfl)) rest)
      rw [Json.write, Json.tokens]
      simp only [List.append_assoc, List.cons_append, List.nil_append]
      rw [scanAll_mark (by decide) rfl, hitems, scanAll_mark (by decide) rfl]
  | @object members _ _ ih =>
      intro rest _
      have hmembers := scanAll_writeMembers ih (endsNumber_cons (.inr (.inr rfl)) rest)
      rw [Json.write, Json.tokens]
      simp only [List.append_assoc, List.cons_append, List.nil_append]
      rw [scanAll_mark (by decide) rfl, hmembers, scanAll_mark (by decide) rfl]

end Token

end QueryWindow
