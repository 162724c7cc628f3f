import QueryWindow.Formats
import QueryWindow.Proofs.Pattern.Faithful
import QueryWindow.Proofs.Pattern.Telling

/-!
# QueryWindow.Proofs.Pattern.RoundTrip

**Patterns by which every timestamp is read back.** A pattern is written here as the tokens it
consists of, in any order and any number: specifiers from a list, and all other characters. Such a
pattern tells a timestamp (`TellsTimestamp`) if it has the specifiers that are needed to determine
one. Then what is written by it is read back by it, to the nanosecond if the pattern has a specifier
for nanoseconds and to the second otherwise.

No condition on separators is needed, since each number fills its width, and none on repetitions,
since all that is said of one timestamp is true of it.
-/

namespace QueryWindow.Pattern

/-! ### Tokens -/

/-- A specifier that is read back as it was written. -/
inductive Specifier
  | year
  | month
  | shortMonthName
  | monthName
  | day
  | hour
  | hourOfHalf
  | capitalHalf
  | smallHalf
  | minute
  | second
  | nanosecond
  | percent
  | newline
  | tab
  deriving DecidableEq

namespace Specifier

/-- The letter after the percent sign. -/
def letter : Specifier → Char
  | year => 'Y'
  | month => 'm'
  | shortMonthName => 'b'
  | monthName => 'B'
  | day => 'd'
  | hour => 'H'
  | hourOfHalf => 'I'
  | capitalHalf => 'p'
  | smallHalf => 'P'
  | minute => 'M'
  | second => 'S'
  | nanosecond => 'f'
  | percent => '%'
  | newline => 'n'
  | tab => 't'

/-- The item that a specifier stands for. -/
def item : Specifier → Item
  | year => .number .year .zero
  | month => .number .month .zero
  | shortMonthName => .monthName false
  | monthName => .monthName true
  | day => .number .day .zero
  | hour => .number .hour .zero
  | hourOfHalf => .number .hourOfHalf .zero
  | capitalHalf => .half true
  | smallHalf => .half false
  | minute => .number .minute .zero
  | second => .number .second .zero
  | nanosecond => .number .nanosecond .zero
  | percent => .literal '%'
  | newline => .blank '\n'
  | tab => .blank '\t'

theorem step_letter (s : Specifier) : Scan.percent.step s.letter = ([s.item], .text) := by
  cases s <;> rfl

theorem isFaithful_item (s : Specifier) : s.item.isFaithful = true := by
  cases s <;> rfl

/-- Only usual fields are fixed by these specifiers. -/
theorem isUsual_of_mem_mentions (s : Specifier) :
    ∀ field ∈ s.item.mentions, field.isUsual = true := by
  cases s <;> decide

/-- The nanoseconds have a specifier of their own. -/
theorem nanosecond_mem_mentions_iff (s : Specifier) :
    Field.nanosecond ∈ s.item.mentions ↔ s = .nanosecond := by
  cases s <;> decide

end Specifier

/-- A token of a pattern: a specifier, or a character outside specifiers, blank or not. -/
inductive Token
  | specifier (s : Specifier)
  | plain (c : Char) (h : c ≠ '%')
  deriving DecidableEq

namespace Token

/-- The text of a token. -/
def text : Token → List Char
  | specifier s => ['%', s.letter]
  | plain c _ => [c]

/-- The item that a token stands for. -/
def item : Token → Item
  | specifier s => s.item
  | plain c _ => .ofChar c

theorem itemsFrom_append_text (token : Token) (cs : List Char) :
    itemsFrom .text (token.text ++ cs) = token.item :: itemsFrom .text cs := by
  cases token with
  | specifier s =>
      show itemsFrom .text ('%' :: s.letter :: cs) = _
      rw [itemsFrom_cons]
      show itemsFrom .percent (s.letter :: cs) = _
      rw [itemsFrom_cons, s.step_letter]
      rfl
  | plain c h => exact itemsFrom_text h cs

theorem isFaithful_item (token : Token) : token.item.isFaithful = true := by
  cases token with
  | specifier s => exact s.isFaithful_item
  | plain c h =>
      cases hc : isBlank c with
      | true => simp [item, Item.ofChar, Item.isFaithful, hc]
      | false => simp [item, Item.ofChar, Item.isFaithful, hc]

theorem mentions_plain (c : Char) (h : c ≠ '%') : (plain c h).item.mentions = [] := by
  cases hc : isBlank c with
  | true => simp [item, Item.ofChar, Item.mentions, hc]
  | false => simp [item, Item.ofChar, Item.mentions, hc]

end Token

/-- The pattern that consists of the given tokens. -/
def ofTokens (tokens : List Token) : String := String.ofList (tokens.flatMap Token.text)

/-- A pattern of tokens has one item for each of them. -/
theorem items_ofTokens (tokens : List Token) : items (ofTokens tokens) = tokens.map Token.item := by
  unfold items ofTokens
  rw [String.toList_ofList]
  induction tokens with
  | nil => rfl
  | cons token tokens ih =>
      rw [List.flatMap_cons, Token.itemsFrom_append_text, ih, List.map_cons]

theorem isFaithful_of_mem {tokens : List Token} :
    ∀ item ∈ tokens.map Token.item, item.isFaithful = true := by
  intro item hitem
  obtain ⟨token, -, rfl⟩ := List.mem_map.1 hitem
  exact token.isFaithful_item

/-- The fields that tokens fix. -/
def mentions (tokens : List Token) : List Field := (tokens.map Token.item).flatMap Item.mentions

variable {tokens : List Token}

theorem mem_mentions_iff {field : Field} :
    field ∈ mentions tokens ↔ ∃ s, Token.specifier s ∈ tokens ∧ field ∈ s.item.mentions := by
  simp only [mentions, List.mem_flatMap, List.mem_map, exists_exists_and_eq_and]
  constructor
  · intro h
    obtain ⟨token, hmem, hfield⟩ := h
    cases token with
    | specifier s => exact ⟨s, hmem, hfield⟩
    | plain c hc =>
        rw [Token.mentions_plain] at hfield
        cases hfield
  · intro h
    obtain ⟨s, hmem, hfield⟩ := h
    exact ⟨_, hmem, hfield⟩

theorem isUsual_of_mem_mentions {field : Field} (h : field ∈ mentions tokens) :
    field.isUsual = true := by
  obtain ⟨s, -, hfield⟩ := mem_mentions_iff.1 h
  exact s.isUsual_of_mem_mentions field hfield

theorem nanosecond_mem_mentions_iff :
    Field.nanosecond ∈ mentions tokens ↔ Token.specifier .nanosecond ∈ tokens := by
  rw [mem_mentions_iff]
  constructor
  · intro h
    obtain ⟨s, hmem, hfield⟩ := h
    rw [s.nanosecond_mem_mentions_iff] at hfield
    rw [← hfield]
    exact hmem
  · intro h
    exact ⟨_, h, (Specifier.nanosecond_mem_mentions_iff _).2 rfl⟩

/-! ### Patterns that tell a timestamp -/

/-- The tokens have all that is needed to determine a timestamp: year, a month in one of its forms,
day, the hour either of the day or of a half day that is given too, minute and second. -/
structure TellsTimestamp (tokens : List Token) : Prop where
  year : .specifier .year ∈ tokens
  month : .specifier .month ∈ tokens ∨ .specifier .shortMonthName ∈ tokens ∨
    .specifier .monthName ∈ tokens
  day : .specifier .day ∈ tokens
  hour : .specifier .hour ∈ tokens ∨ .specifier .hourOfHalf ∈ tokens ∧
    (.specifier .capitalHalf ∈ tokens ∨ .specifier .smallHalf ∈ tokens)
  minute : .specifier .minute ∈ tokens
  second : .specifier .second ∈ tokens

theorem TellsTimestamp.month_mem_mentions (h : TellsTimestamp tokens) :
    Field.month ∈ mentions tokens := by
  rw [mem_mentions_iff]
  rcases h.month with hmem | hmem | hmem
  · exact ⟨_, hmem, by decide⟩
  · exact ⟨_, hmem, by decide⟩
  · exact ⟨_, hmem, by decide⟩

theorem TellsTimestamp.half_mem_mentions (h : TellsTimestamp tokens) :
    Field.half ∈ mentions tokens := by
  rw [mem_mentions_iff]
  rcases h.hour with hmem | ⟨-, hmem | hmem⟩
  · exact ⟨_, hmem, by decide⟩
  · exact ⟨_, hmem, by decide⟩
  · exact ⟨_, hmem, by decide⟩

theorem TellsTimestamp.hourOfHalf_mem_mentions (h : TellsTimestamp tokens) :
    Field.hourOfHalf ∈ mentions tokens := by
  rw [mem_mentions_iff]
  rcases h.hour with hmem | ⟨hmem, -⟩
  · exact ⟨_, hmem, by decide⟩
  · exact ⟨_, hmem, by decide⟩

/-- Fields to which nanoseconds were never mentioned say the same of a truncated timestamp. -/
theorem say_truncate {t : Timestamp} {fields : Fields} {mentioned : List Field} (ht : t.time.Valid)
    (h : fields.Say mentioned t.display) (hnano : Field.nanosecond ∉ mentioned) :
    fields.Say mentioned t.truncate.display := by
  intro field
  rw [h field, Timestamp.display_truncate ht]
  by_cases hmem : field ∈ mentioned
  · rw [if_pos hmem, if_pos hmem]
    cases field with
    | nanosecond => exact absurd hmem hnano
    | _ => rfl
  · rw [if_neg hmem, if_neg hmem]

/-- Fields that say what tokens mention, and the tokens tell a timestamp, determine it, unless it
has nanoseconds that they do not mention. -/
theorem timestamp_of_say {t : Timestamp} {fields : Fields} (h : TellsTimestamp tokens) (ht : t.Valid)
    (hsay : fields.Say (mentions tokens) t.display)
    (hnano : Field.nanosecond ∈ mentions tokens ∨ t.display.nano = 0) :
    fields.timestamp = .ok t := by
  have husual : ∀ field ∈ mentions tokens, field.isUsual = true := fun _ => isUsual_of_mem_mentions
  have hyear : .year ∈ mentions tokens := mem_mentions_iff.2 ⟨_, h.year, by decide⟩
  have hday : .day ∈ mentions tokens := mem_mentions_iff.2 ⟨_, h.day, by decide⟩
  have hminute : .minute ∈ mentions tokens := mem_mentions_iff.2 ⟨_, h.minute, by decide⟩
  have hsecond : .second ∈ mentions tokens := mem_mentions_iff.2 ⟨_, h.second, by decide⟩
  exact hsay.timestamp_eq_ok ht husual ⟨hyear, h.month_mem_mentions, hday⟩
    ⟨h.half_mem_mentions, h.hourOfHalf_mem_mentions, hminute⟩ hsecond hnano

/-- What is told of a timestamp by tokens, and what is not. -/
theorem timestamp_of_told {t : Timestamp} {fields : Fields} (h : TellsTimestamp tokens)
    (ht : t.Valid) (hsay : fields.Say (mentions tokens) t.display) :
    fields.timestamp = .ok (if .specifier .nanosecond ∈ tokens then t else t.truncate) := by
  by_cases hmem : .specifier .nanosecond ∈ tokens
  · rw [if_pos hmem]
    exact timestamp_of_say h ht hsay (Or.inl (nanosecond_mem_mentions_iff.2 hmem))
  · have hnano := fun hm => hmem (nanosecond_mem_mentions_iff.1 hm)
    rw [if_neg hmem]
    refine timestamp_of_say h (Timestamp.valid_truncate ht) (say_truncate ht.2 hsay hnano) (Or.inr ?_)
    rw [Timestamp.display_truncate ht.2]

end QueryWindow.Pattern

namespace QueryWindow.Formats

open Pattern (ofTokens TellsTimestamp)

/-- **A timestamp that is written by a pattern which tells timestamps is read back**, whatever the
reference and whatever else stands in the pattern. Only a pattern without a specifier for
nanoseconds loses them; a leap second stays one even then. -/
theorem parse_write_strict {tokens : List Pattern.Token} (h : TellsTimestamp tokens) {t : Timestamp}
    (ht : t.Valid) (hyear : 0 ≤ t.date.year ∧ t.date.year ≤ 9999) (reference : Timestamp) :
    ∃ text, (strict (ofTokens tokens)).write? t = some text ∧
      (strict (ofTokens tokens)).parse text reference =
        .ok (if .specifier .nanosecond ∈ tokens then t else t.truncate) := by
  have hplain : t.HasPlainYear := ⟨ht, hyear⟩
  have hfaithful := @Pattern.isFaithful_of_mem tokens
  have hitems := Pattern.items_ofTokens tokens
  obtain ⟨fields, hread, hfields⟩ := Pattern.readFields_written hfaithful hplain
  have htimestamp := Pattern.timestamp_of_told h ht hfields
  have hwrite := Pattern.writeItems?_eq_written
    (fun item hitem => Item.isWritable_of_isFaithful (hfaithful item hitem)) t
  refine ⟨String.ofList (Pattern.written t (tokens.map Pattern.Token.item)), ?_, ?_⟩
  · rw [write?, primary_strict, Pattern.write?, hitems, hwrite]
    rfl
  · have hne : trim (Pattern.written t (tokens.map Pattern.Token.item)) ≠ [] :=
      Pattern.trim_written_ne_nil hfaithful hplain (List.mem_map_of_mem h.year) (fun _ => nofun)
    rw [parse_eq_ok_iff, String.toList_ofList]
    refine ⟨hne, ?_⟩
    have hfound : Pattern.timestamp? (ofTokens tokens)
        (trim (Pattern.written t (tokens.map Pattern.Token.item))) =
        some (if .specifier .nanosecond ∈ tokens then t else t.truncate) := by
      rw [Pattern.timestamp?, hitems, toOption_eq_some, exceptBind_eq_ok]
      exact ⟨fields, hread, htimestamp⟩
    simp only [find?, strict, List.findSome?_cons, hfound]
    rfl

/-- Tokens without separators: a digit follows the year, and there are blanks at both ends. -/
def crowdedTokens : List Pattern.Token :=
  [.specifier .tab, .specifier .year, .plain '1' (by decide), .specifier .monthName,
    .specifier .day, .specifier .hourOfHalf, .specifier .capitalHalf, .specifier .minute,
    .specifier .second, .plain ' ' (by decide)]

example :
    (strict (ofTokens crowdedTokens)).write? ⟨⟨2024, 2, 29⟩, ⟨86399, 1500000000⟩⟩ =
      some "\t20241February2911PM5960 " := by
  cbv

/-- In the middle of a leap second, by crowded tokens. -/
theorem parse_write_strict_crowded :
    TellsTimestamp crowdedTokens ∧
      (⟨⟨2024, 2, 29⟩, ⟨86399, 1500000000⟩⟩ : Timestamp).Valid ∧
      ∃ text, (strict (ofTokens crowdedTokens)).write? ⟨⟨2024, 2, 29⟩, ⟨86399, 1500000000⟩⟩ =
          some text ∧
        (strict (ofTokens crowdedTokens)).parse text default =
          .ok ⟨⟨2024, 2, 29⟩, ⟨86399, 1000000000⟩⟩ := by
  have htells : TellsTimestamp crowdedTokens :=
    ⟨by decide, by decide, by decide, by decide, by decide, by decide⟩
  have hvalid : (⟨⟨2024, 2, 29⟩, ⟨86399, 1500000000⟩⟩ : Timestamp).Valid := by decide
  exact ⟨htells, hvalid, parse_write_strict htells hvalid (by decide) default⟩

end QueryWindow.Formats
