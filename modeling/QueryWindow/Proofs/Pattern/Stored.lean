import QueryWindow.Proofs.Formats.Application

/-!
# QueryWindow.Proofs.Pattern.Stored

**A stored timestamp is read back exactly** (`Timestamp.ofStoredText_storedText`), whatever its year
and its fraction, and in a leap second too. The reader allows blanks between the parts; where none
were written it finds none, since the signs between the parts are not blank.

A fraction has three, six or nine digits, the fewest of these that lose nothing, and none for a
whole second. It is read by however many digits there are, filled up to nine
(`nanosOfFraction_padded`).
-/

namespace QueryWindow

/-! ### Fractions -/

/-- The first digits of nine, filled up with zeros again, are the number if what was cut off was
zero. -/
theorem nanosOfFraction_padded {count nano : Nat} (hpos : 0 < count) (hcount : count ≤ 9)
    (hlt : nano < 10 ^ 9) (hexact : Digits.weight 10 (9 - count) ∣ nano) :
    nanosOfFraction (Digits.padded count (nano / Digits.weight 10 (9 - count))) = nano := by
  have hsplit : 10 ^ count * 10 ^ (9 - count) = 10 ^ 9 := by
    rw [← Nat.pow_add, Nat.add_sub_cancel' hcount]
  have hfits : nano / Digits.weight 10 (9 - count) < 10 ^ count := by
    refine Nat.div_lt_of_lt_mul ?_
    rw [Nat.mul_comm]
    exact hsplit ▸ hlt
  have hlength := Digits.length_padded hpos hfits
  rw [nanosOfFraction, hlength, List.take_of_length_le (hlength.le.trans hcount),
    Digits.value_padded]
  exact Nat.div_mul_cancel hexact

/-- The digits of a fraction lose nothing. -/
theorem exists_fraction (nano : Nat) :
    (nano % nanosPerSecond = 0 ∧ writeFraction nano = []) ∨
      nano % nanosPerSecond ≠ 0 ∧ ∃ digits, Grammar.IsDigits digits ∧
        writeFraction nano = '.' :: digits ∧ nanosOfFraction digits = nano % nanosPerSecond := by
  have hlt : nano % nanosPerSecond < 10 ^ 9 := Nat.mod_lt _ (by decide)
  have hdigits : ∀ count, 0 < count → count ≤ 9 →
      Digits.weight 10 (9 - count) ∣ nano % nanosPerSecond →
        Grammar.IsDigits (writeFractionDigits count nano) ∧
          nanosOfFraction (writeFractionDigits count nano) = nano % nanosPerSecond :=
    fun count hpos hcount hexact =>
      ⟨isDigits_padded _ _, nanosOfFraction_padded hpos hcount hlt hexact⟩
  unfold writeFraction fractionPlaces
  dsimp only
  by_cases hzero : nano % nanosPerSecond = 0
  · rw [if_pos hzero]
    exact Or.inl ⟨hzero, rfl⟩
  · rw [if_neg hzero]
    by_cases hthree : nano % nanosPerSecond % 1000000 = 0
    · obtain ⟨hd, hvalue⟩ := hdigits 3 (by decide) (by decide) (Nat.dvd_of_mod_eq_zero hthree)
      rw [if_pos hthree]
      exact Or.inr ⟨hzero, _, hd, rfl, hvalue⟩
    · rw [if_neg hthree]
      by_cases hsix : nano % nanosPerSecond % 1000 = 0
      · obtain ⟨hd, hvalue⟩ := hdigits 6 (by decide) (by decide) (Nat.dvd_of_mod_eq_zero hsix)
        rw [if_pos hsix]
        exact Or.inr ⟨hzero, _, hd, rfl, hvalue⟩
      · obtain ⟨hd, hvalue⟩ := hdigits 9 (by decide) (by decide) (Nat.one_dvd _)
        rw [if_neg hsix]
        exact Or.inr ⟨hzero, _, hd, rfl, hvalue⟩

theorem readFraction_digits {digits : List Char} (h : Grammar.IsDigits digits) :
    readFraction digits = .ok (nanosOfFraction digits, []) := by
  have hrun : IsRun none digits [] := ⟨h.2, nofun, Or.inr (by simp)⟩
  have hleading : leadingDigits none digits = digits := by
    simpa only [List.append_nil] using leadingDigits_of_isRun hrun
  rw [readFraction, hleading, readNatural_eq_ok_iff.2 ⟨digits, by simp, h.1, hrun, rfl⟩]
  rfl

namespace Pattern

variable {items : List Item} {cs rest : List Char} {facts : List (Field × Int)}

/-- What a fraction states: the nanoseconds, unless the second is a whole one. -/
def fractionFacts (nano : Nat) : List (Field × Int) :=
  if nano % nanosPerSecond = 0 then []
  else [(Field.nanosecond, ((nano % nanosPerSecond : Nat) : Int))]

theorem eq_of_mem_fractionFacts {nano : Nat} {fact : Field × Int} (h : fact ∈ fractionFacts nano) :
    fact = (Field.nanosecond, ((nano % nanosPerSecond : Nat) : Int)) := by
  unfold fractionFacts at h
  split at h
  · cases h
  · exact List.mem_singleton.1 h

theorem nanosecond_mem_fractionFacts {nano : Nat} (h : nano % nanosPerSecond ≠ 0) :
    .nanosecond ∈ (fractionFacts nano).map Prod.fst := by
  rw [fractionFacts, if_neg h]
  exact List.mem_cons_self

/-- A fraction at the end of a text is read as what it states. -/
theorem readItems_fraction {nano : Nat} {fields result : Fields}
    (h : fields.setAll (fractionFacts nano) = .ok result) :
    readItems [.fraction, .blank ' '] fields (writeFraction nano) = .ok (result, []) := by
  unfold fractionFacts at h
  rcases exists_fraction nano with ⟨hzero, htext⟩ | ⟨hzero, digits, hdigits, htext, hvalue⟩
  · rw [if_pos hzero] at h
    cases h
    rw [htext]
    rfl
  · rw [if_neg hzero] at h
    have hread : Item.fraction.read fields ('.' :: digits) = .ok (result, []) := by
      show (readFraction digits >>= fun found => fields.store .nanosecond found) = _
      rw [readFraction_digits hdigits, hvalue]
      exact Item.store_eq_ok_iff.2 ⟨h, rfl⟩
    rw [htext]
    exact bind_eq_ok.2 ⟨_, hread, rfl⟩

/-! ### Dividing the front of a text -/

/-- Items take pieces from the front of a text and leave the rest. -/
inductive Divides : List Item → List Char → List Char → List (Field × Int) → Prop
  | nil (rest : List Char) : Divides [] rest rest []
  | cons {item : Item} {items : List Item} {piece cs rest : List Char}
      {facts more : List (Field × Int)} (h : item.Takes piece cs facts)
      (hmore : Divides items cs rest more) :
      Divides (item :: items) (piece ++ cs) rest (facts ++ more)

theorem readItems_of_divides {fields result : Fields} (h : Divides items cs rest facts)
    (hset : fields.setAll facts = .ok result) :
    readItems items fields cs = .ok (result, rest) := by
  induction h generalizing fields with
  | nil => cases hset; rfl
  | cons h _ ih =>
      obtain ⟨next, hfirst, hmore⟩ := Fields.setAll_append_eq_ok_iff.1 hset
      exact bind_eq_ok.2 ⟨_, Item.read_of_takes h hfirst, ih hmore⟩

/-- Where a blank may stand before a sign, none was written. -/
theorem Divides.mark {b c : Char} (hc : isBlank c = false) (h : Divides items cs rest facts) :
    Divides (.blank b :: .literal c :: items) (c :: cs) rest facts := by
  have hblank : (Item.blank b).Takes [] (c :: cs) [] :=
    .blank (by simp) fun d hd => by rw [← Option.some.inj hd]; exact hc
  exact .cons hblank (.cons (.literal c cs) h)

/-- A number that fills its width is taken, whatever follows it. -/
theorem Divides.number {t : Timestamp} {kind : Quantity} {n : Nat} (husual : kind.isUsual = true)
    (hyear : kind ≠ .year) (ht : t.Valid) (hn : kind.valueOf t = n)
    (h : Divides items cs rest facts) :
    Divides (.number kind .zero :: items) (Digits.padded kind.writtenWidth n ++ cs) rest
      (Item.states t.display (.number kind .zero) ++ facts) := by
  obtain ⟨m, hm, hlt, hrange⟩ := Quantity.exists_valueOf husual ht fun heq => absurd heq hyear
  obtain rfl : n = m := Int.ofNat.inj (hn.symm.trans hm)
  rw [Item.states, Item.mentions, ← Quantity.facts_valueOf husual t, hn]
  exact .cons (.number (Quantity.numeral_padded husual hlt _) hrange) h

/-- A year before a sign is taken however many digits it has. -/
theorem Divides.year {t : Timestamp} {c : Char} (hc : c.isDigit = false) (ht : t.Valid)
    (h : Divides items (c :: cs) rest facts) :
    Divides (.number .year .zero :: items) (writeYear .zero t.date.year ++ c :: cs) rest
      (Item.states t.display (.number .year .zero) ++ facts) := by
  have hnumeral : Quantity.year.Numeral (writeYear .zero t.date.year) (c :: cs) t.date.year :=
    (Quantity.numeral_iff_year fun d hd => by rw [← Option.some.inj hd]; exact hc).2
      (year_writeYear t.date.year)
  exact .cons (.number hnumeral ht.1.readable.1) h

theorem readItems_append (items more : List Item) (fields : Fields) (cs : List Char) :
    readItems (items ++ more) fields cs =
      readItems items fields cs >>= fun found => readItems more found.1 found.2 := by
  induction items generalizing fields cs with
  | nil => rfl
  | cons item items ih =>
      rw [List.cons_append, readItems, readItems]
      cases item.read fields cs with
      | ok found => exact ih found.1 found.2
      | error e => rfl

end Pattern

/-! ### Timestamps -/

namespace Timestamp

variable {t : Timestamp}

/-- The text of a timestamp, part by part. -/
theorem textWith_eq (joint : Char) (t : Timestamp) : t.textWith joint =
    writeYear .zero t.date.year ++ '-' :: (Digits.padded 2 t.date.month ++
      '-' :: (Digits.padded 2 t.date.day ++ joint :: (Digits.padded 2 t.display.hour ++
        ':' :: (Digits.padded 2 t.display.minute ++ ':' :: (Digits.padded 2 t.display.second ++
          writeFraction t.time.nano))))) := by
  have hwrite : ∀ {kind : Quantity} {n : Nat}, kind.isUsual = true → kind ≠ .year →
      kind.valueOf t = n → kind.write .zero t = Digits.padded kind.writtenWidth n :=
    fun husual hyear => Quantity.write_of_valueOf husual fun heq => absurd heq hyear
  have hhour : Quantity.hour.write .zero t = Digits.padded 2 t.display.hour :=
    hwrite rfl (by decide) rfl
  have hminute : Quantity.minute.write .zero t = Digits.padded 2 t.display.minute :=
    hwrite rfl (by decide) rfl
  have hsecond : Quantity.second.write .zero t = Digits.padded 2 t.display.second :=
    hwrite rfl (by decide) rfl
  rw [textWith, hhour, hminute, hsecond]
  simp only [List.append_assoc, List.cons_append]

/-- The items by which a stored timestamp is read up to its second. -/
def storedFront : List Item :=
  Item.rfc3339Date ++ [.blank ' ', .literal 'T'] ++
    [.number .hour .zero, .blank ' ', .literal ':', .number .minute .zero, .blank ' ', .literal ':',
      .number .second .zero]

theorem storedItems_eq : storedItems = storedFront ++ [.fraction, .blank ' '] := rfl

/-- They state usual fields only. -/
theorem isUsual_of_mem_storedFront :
    ∀ field ∈ storedFront.flatMap Item.mentions, field.isUsual = true := by
  decide

theorem divides_storedFront (ht : t.Valid) : Pattern.Divides storedFront (t.textWith 'T')
    (writeFraction t.time.nano) (storedFront.flatMap (Item.states t.display)) := by
  rw [textWith_eq]
  exact .year (by decide) ht <| .mark (by decide) <|
    .number rfl (by decide) ht rfl <| .mark (by decide) <|
    .number rfl (by decide) ht rfl <| .mark (by decide) <|
    .number rfl (by decide) ht rfl <| .mark (by decide) <|
    .number rfl (by decide) ht rfl <| .mark (by decide) <|
    .number rfl (by decide) ht rfl <| .nil _

/-- All that a stored text states is true. -/
theorem eq_valueOf_of_mem_stored {fact : Field × Int} (h : fact ∈
    storedFront.flatMap (Item.states t.display) ++ Pattern.fractionFacts t.time.nano) :
    fact.2 = t.display.valueOf fact.1 := by
  rcases List.mem_append.1 h with h | h
  · exact Item.eq_valueOf_of_mem_states h
  · rw [Pattern.eq_of_mem_fractionFacts h]
    rfl

/-- **A stored timestamp is read back exactly.** -/
theorem ofStoredText_storedText (ht : t.Valid) : ofStoredText t.storedText = .ok t := by
  -- True statements do not contradict each other, so that all of them can be set.
  obtain ⟨fields, hset, hsay⟩ := Fields.exists_say_of_true (@eq_valueOf_of_mem_stored t)
  obtain ⟨next, hfront, hfraction⟩ := Fields.setAll_append_eq_ok_iff.1 hset
  have hread : Pattern.readItems storedItems .empty (t.textWith 'T') = .ok (fields, []) := by
    rw [storedItems_eq, Pattern.readItems_append,
      Pattern.readItems_of_divides (divides_storedFront ht) hfront]
    exact Pattern.readItems_fraction hfraction
  have hfields : Pattern.readFields storedItems t.storedText.toList = .ok fields := by
    rw [storedText, String.toList_ofList]
    exact bind_eq_ok.2 ⟨_, hread, rfl⟩
  rw [List.map_append, Item.map_fst_flatMap_states] at hsay
  have hmem : ∀ {field : Field}, field ∈ storedFront.flatMap Item.mentions → field ∈
      storedFront.flatMap Item.mentions ++ (Pattern.fractionFacts t.time.nano).map Prod.fst :=
    List.mem_append_left _
  refine exceptBind_eq_ok.2 ⟨fields, hfields, hsay.timestamp_eq_ok ht (fun field hfield => ?_)
    ⟨hmem (by decide), hmem (by decide), hmem (by decide)⟩
    ⟨hmem (by decide), hmem (by decide), hmem (by decide)⟩ (hmem (by decide)) ?_⟩
  · rcases List.mem_append.1 hfield with hfield | hfield
    · exact isUsual_of_mem_storedFront field hfield
    · obtain ⟨fact, hfact, rfl⟩ := List.mem_map.1 hfield
      rw [Pattern.eq_of_mem_fractionFacts hfact]
      rfl
  · by_cases hwhole : t.time.nano % nanosPerSecond = 0
    · exact Or.inr hwhole
    · exact Or.inl (List.mem_append_right _ (Pattern.nanosecond_mem_fractionFacts hwhole))

end Timestamp

end QueryWindow
