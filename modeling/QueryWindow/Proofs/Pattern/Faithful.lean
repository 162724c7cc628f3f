import Mathlib.Tactic.IntervalCases
import QueryWindow.Pattern
import QueryWindow.Proofs.Calendar.DayNumber
import QueryWindow.Proofs.Pattern.Reads
import QueryWindow.Proofs.Pattern.Telling
import QueryWindow.Proofs.Text.Numerals

/-!
# QueryWindow.Proofs.Pattern.Faithful

**Items that read back what they write.** A number padded with zeros fills its width, so it is read
back whatever follows it, another number included; the same holds of a name and of a half of the
day. Blanks are not read back one by one: those at the ends of the text are trimmed before it is
read, and those inside go with whichever blank item comes first. What survives is which facts the
text states, in which order (`Pattern.reads_written`).

Years are limited to those that are written with four digits.
-/

namespace QueryWindow

/-- The timestamp is well-formed, and its year has at most four digits and no sign. -/
def Timestamp.HasPlainYear (t : Timestamp) : Prop :=
  t.Valid ∧ 0 ≤ t.date.year ∧ t.date.year ≤ 9999

instance (t : Timestamp) : Decidable t.HasPlainYear :=
  inferInstanceAs (Decidable (_ ∧ _))

variable {t : Timestamp}

/-! ### Numbers -/

namespace Quantity

/-- The numbers that fix usual fields. -/
def isUsual : Quantity → Bool
  | year | month | day | hour | hourOfHalf | minute | second | nanosecond => true
  | _ => false

/-- The fields that a number fixes, whatever its value. -/
def mentions (kind : Quantity) : List Field := (kind.facts 0).map Prod.fst

theorem facts_valueOf {kind : Quantity} (h : kind.isUsual = true) (t : Timestamp) :
    kind.facts (kind.valueOf t) = kind.mentions.map fun field => (field, t.display.valueOf field) := by
  cases kind with
  | hourOfHalf =>
      have hfold : ((t.time.hour + 11) % 12 + 1 : Int) % 12 = t.time.hour % 12 := by omega
      show [(Field.hourOfHalf, ((t.time.hour + 11) % 12 + 1 : Int) % 12)] = _
      rw [hfold]
      rfl
  | year | month | day | hour | minute | second | nanosecond => rfl
  | _ => cases h

/-- The value of a usual number fits its width and its range, that of a year if it is a plain one. -/
theorem exists_valueOf {kind : Quantity} (h : kind.isUsual = true) (ht : t.Valid)
    (hyear : kind = .year → 0 ≤ t.date.year ∧ t.date.year ≤ 9999) :
    ∃ n : Nat, kind.valueOf t = n ∧ n < 10 ^ kind.writtenWidth ∧
      kind.least ≤ n ∧ (n : Int) ≤ kind.greatest := by
  obtain ⟨hdate, htime⟩ := ht
  obtain ⟨-, -, hm1, hm12, hd1, hd⟩ := hdate
  obtain ⟨hsecond, hnano, hleap⟩ := htime
  have hlen := (monthLength_bounds t.date.year t.date.month).2
  simp only [nanosPerSecond, secondsPerDay] at hsecond hnano hleap
  cases kind with
  | year =>
      have hyear := hyear rfl
      refine ⟨t.date.year.toNat, ?_, ?_, ?_, ?_⟩ <;>
        simp only [valueOf, writtenWidth, least, greatest, signedHalfWordLimit] <;> omega
  | month => exact ⟨t.date.month, rfl, by simp only [writtenWidth]; omega, by simp only [least]; omega,
      by simp only [greatest]; omega⟩
  | day => exact ⟨t.date.day, rfl, by simp only [writtenWidth]; omega, by simp only [least]; omega,
      by simp only [greatest]; omega⟩
  | hour =>
      refine ⟨t.time.hour, rfl, ?_, ?_, ?_⟩ <;>
        simp only [writtenWidth, least, greatest, Time.hour] <;> omega
  | hourOfHalf =>
      refine ⟨(t.time.hour + 11) % 12 + 1, rfl, ?_, ?_, ?_⟩ <;>
        simp only [writtenWidth, least, greatest] <;> omega
  | minute =>
      refine ⟨t.time.minute, rfl, ?_, ?_, ?_⟩ <;>
        simp only [writtenWidth, least, greatest, Time.minute] <;> omega
  | second =>
      refine ⟨t.time.secondOfMinute + t.time.nano / nanosPerSecond, rfl, ?_, ?_, ?_⟩ <;>
        simp only [writtenWidth, least, greatest, Time.secondOfMinute, nanosPerSecond] <;> omega
  | nanosecond =>
      refine ⟨t.time.nano % nanosPerSecond, rfl, ?_, ?_, ?_⟩ <;>
        simp only [writtenWidth, least, greatest, nanosPerSecond] <;> omega
  | _ => cases h

theorem write_of_valueOf {kind : Quantity} (h : kind.isUsual = true)
    (hyear : kind = .year → 0 ≤ t.date.year ∧ t.date.year ≤ 9999) {n : Nat}
    (hn : kind.valueOf t = n) : kind.write .zero t = Digits.padded kind.writtenWidth n := by
  have hsign : minusIfNegative (n : Int) = [] := if_neg (by omega)
  have hfill : ∀ width, fill .zero width [] (Digits.ofNat 10 n) = Digits.padded width n :=
    fun _ => rfl
  cases kind with
  | year =>
      have hvalue : t.date.year = n := hn
      have hrange : 0 ≤ (n : Int) ∧ (n : Int) < 10000 := by
        have := hyear rfl
        omega
      show writeYear .zero t.date.year = _
      rw [writeYear, hvalue, if_pos hrange]
      exact hfill 4
  | month | day | hour | hourOfHalf | minute | second | nanosecond =>
      show fill .zero _ (minusIfNegative (valueOf _ t)) (Digits.ofNat 10 (valueOf _ t).natAbs) = _
      rw [hn, hsign]
      exact hfill _
  | _ => cases h

theorem readWidth_of_isUsual {kind : Quantity} (h : kind.isUsual = true) :
    kind.readWidth = some kind.writtenWidth := by
  cases kind with
  | unixSeconds => cases h
  | _ => rfl

/-- Digits that fill the width are taken whatever follows them. -/
theorem numeral_padded {kind : Quantity} (h : kind.isUsual = true) {n : Nat}
    (hn : n < 10 ^ kind.writtenWidth) (rest : List Char) :
    kind.Numeral (Digits.padded kind.writtenWidth n) rest n := by
  have hwidth : 0 < kind.writtenWidth := by cases kind <;> decide
  have hlength := Digits.length_padded hwidth hn
  have hrun : IsRun kind.readWidth (Digits.padded kind.writtenWidth n) rest := by
    rw [readWidth_of_isUsual h]
    refine ⟨fun c hc => Digits.isDigit_of_mem_padded hc, ?_, Or.inl (by rw [hlength])⟩
    intro limit hlimit
    obtain rfl := Option.some.inj hlimit
    exact hlength.le
  have hplain := @Numeral.plain kind [] _ rest (by simp) (Digits.padded_ne_nil _ _) hrun
  rw [Digits.value_padded] at hplain
  exact hplain

end Quantity

/-! ### Names and halves -/

/-- The name of a month is found again, whatever follows it. -/
theorem find?_writeName (long : Bool) {month : Nat} (h : 1 ≤ month ∧ month ≤ 12)
    (rest : List Char) :
    Name.find? monthNames long (writeName monthNames long (month - 1) ++ rest) =
      some (month - 1, rest) := by
  obtain ⟨h1, h12⟩ := h
  cases long with
  | false => interval_cases month <;> rfl
  | true => interval_cases month <;> rfl

theorem readHalf_writeHalf (capitals : Bool) {hour : Nat} (h : hour < 24) (rest : List Char) :
    readHalf (writeHalf capitals hour ++ rest) = .ok (hour / 12, rest) := by
  by_cases hnoon : hour < 12
  · have hzero : hour / 12 = 0 := by omega
    unfold writeHalf
    rw [hzero, decide_eq_true hnoon]
    cases capitals <;> rfl
  · have hone : hour / 12 = 1 := by omega
    unfold writeHalf
    rw [hone, decide_eq_false hnoon]
    cases capitals <;> rfl

theorem isSolid_writeName (long : Bool) {month : Nat} (h : 1 ≤ month ∧ month ≤ 12) :
    IsSolid (writeName monthNames long (month - 1)) := by
  obtain ⟨h1, h12⟩ := h
  cases long with
  | false => interval_cases month <;> exact isSolid_of_all rfl rfl
  | true => interval_cases month <;> exact isSolid_of_all rfl rfl

theorem isSolid_writeHalf (capitals : Bool) (hour : Nat) : IsSolid (writeHalf capitals hour) := by
  unfold writeHalf
  cases capitals <;> cases decide (hour < 12) <;> exact isSolid_of_all rfl rfl

/-! ### Items -/

namespace Item

/-- The items that read back what they write. -/
def isFaithful : Item → Bool
  | literal c => !isBlank c
  | blank c => isBlank c
  | number kind padding => kind.isUsual && decide (padding = .zero)
  | monthName _ | half _ => true
  | _ => false

theorem isWritable_of_isFaithful {item : Item} (h : item.isFaithful = true) :
    item.isWritable = true := by
  cases item with
  | offset | zoneName | zonedTimestamp | invalid => cases h
  | _ => rfl

/-- The fields that an item fixes. -/
def mentions : Item → List Field
  | number kind _ => kind.mentions
  | monthName _ => [.month]
  | half _ => [.half]
  | _ => []

/-- What an item states about a display. -/
def states (display : Display) (item : Item) : List (Field × Int) :=
  item.mentions.map fun field => (field, display.valueOf field)

theorem map_fst_flatMap_states (display : Display) (items : List Item) :
    (items.flatMap (states display)).map Prod.fst = items.flatMap mentions := by
  simp [List.map_flatMap, states, Function.comp_def]

/-- What items state is true. -/
theorem eq_valueOf_of_mem_states {display : Display} {items : List Item} {fact : Field × Int}
    (h : fact ∈ items.flatMap (states display)) : fact.2 = display.valueOf fact.1 := by
  obtain ⟨item, -, hfact⟩ := List.mem_flatMap.1 h
  obtain ⟨field, -, rfl⟩ := List.mem_map.1 hfact
  rfl

/-- A faithful item that is not a blank writes a piece that it takes back, whatever follows it. -/
theorem isFaithful_cases {item : Item} (h : item.isFaithful = true) (ht : t.HasPlainYear) :
    (∃ c, item = .blank c ∧ isBlank c = true) ∨
      ∃ piece, item.write? t = some piece ∧ IsSolid piece ∧
        ∀ rest, item.Takes piece rest (item.states t.display) := by
  have hmonth : 1 ≤ t.date.month ∧ t.date.month ≤ 12 := ⟨ht.1.1.2.2.1, ht.1.1.2.2.2.1⟩
  cases item with
  | literal c =>
      have hc : isBlank c = false := by simpa [isFaithful] using h
      exact Or.inr ⟨[c], rfl, ⟨by simp, by simpa using hc⟩, fun rest => .literal c rest⟩
  | blank c => exact Or.inl ⟨c, rfl, h⟩
  | number kind padding =>
      obtain ⟨hkind, hpadding⟩ := Bool.and_eq_true_iff.1 h
      obtain rfl := of_decide_eq_true hpadding
      obtain ⟨n, hvalue, hn, hrange⟩ := Quantity.exists_valueOf hkind ht.1 fun _ => ht.2
      have hsolid : IsSolid (Digits.padded kind.writtenWidth n) :=
        ⟨Digits.padded_ne_nil _ _, fun c hc => isBlank_of_isDigit (Digits.isDigit_of_mem_padded hc)⟩
      refine Or.inr ⟨_, congrArg some (Quantity.write_of_valueOf hkind (fun _ => ht.2) hvalue),
        hsolid, fun rest => ?_⟩
      rw [states, mentions, ← Quantity.facts_valueOf hkind t, hvalue]
      exact .number (Quantity.numeral_padded hkind hn rest) hrange
  | monthName long =>
      refine Or.inr ⟨_, rfl, isSolid_writeName long hmonth, fun rest => ?_⟩
      have htakes := Takes.monthName (find?_writeName long hmonth rest)
      rw [Nat.sub_add_cancel hmonth.1] at htakes
      exact htakes
  | half capitals =>
      have hhour : t.time.hour < 24 := by
        have := ht.1.2.1
        simp only [secondsPerDay] at this
        simp only [Time.hour]
        omega
      exact Or.inr ⟨_, rfl, isSolid_writeHalf capitals _,
        fun rest => .half (readHalf_writeHalf capitals hhour rest)⟩
  | _ => cases h

end Item

/-! ### Patterns -/

/-- Facts that are true of one display do not contradict one another, and together they say what it
shows. -/
theorem Fields.exists_say_of_true {display : Display} {facts : List (Field × Int)}
    (htrue : ∀ fact ∈ facts, fact.2 = display.valueOf fact.1) :
    ∃ fields, Fields.empty.setAll facts = .ok fields ∧
      fields.Say (facts.map Prod.fst) display :=
  Fields.setAll_of_true facts htrue fun _ => Or.inl rfl

namespace Pattern

/-- What the items of a pattern state about one display does not contradict itself. -/
theorem exists_say (display : Display) (items : List Item) :
    ∃ fields, Fields.empty.setAll (items.flatMap (Item.states display)) = .ok fields ∧
      fields.Say (items.flatMap Item.mentions) display := by
  rw [← Item.map_fst_flatMap_states display]
  exact Fields.exists_say_of_true fun _ => Item.eq_valueOf_of_mem_states

/-- The text of items that all have one. -/
def written (t : Timestamp) (items : List Item) : List Char :=
  items.flatMap fun item => (item.write? t).getD []

theorem written_cons (t : Timestamp) (item : Item) (items : List Item) :
    written t (item :: items) = (item.write? t).getD [] ++ written t items :=
  List.flatMap_cons

variable {items : List Item}

theorem writeItems?_eq_written (h : ∀ item ∈ items, item.isWritable = true) (t : Timestamp) :
    writeItems? t items = some (written t items) := by
  induction items with
  | nil => rfl
  | cons item items ih =>
      have hitem : (item.write? t).isSome = true := by
        rw [item.isSome_write? t]
        exact h item List.mem_cons_self
      obtain ⟨piece, hpiece⟩ := Option.isSome_iff_exists.1 hitem
      rw [writeItems?, ih fun i hi => h i (List.mem_cons_of_mem _ hi), written_cons, hpiece]
      rfl

/-- Something is left of the text unless all items are blanks. -/
theorem trim_written_ne_nil (h : ∀ item ∈ items, item.isFaithful = true) (ht : t.HasPlainYear)
    {item : Item} (hmem : item ∈ items) (hitem : ∀ c, item ≠ .blank c) :
    trim (written t items) ≠ [] := by
  intro hnil
  rw [trim_eq_nil_iff] at hnil
  rcases Item.isFaithful_cases (h item hmem) ht with ⟨c, hc, -⟩ | ⟨piece, hpiece, hsolid, -⟩
  · exact hitem c hc
  · obtain ⟨c, tail, rfl⟩ := List.exists_cons_of_ne_nil hsolid.1
    have hwritten : c ∈ written t items :=
      List.mem_flatMap.2 ⟨item, hmem, by rw [hpiece]; exact List.mem_cons_self⟩
    have := hsolid.2 c List.mem_cons_self
    rw [hnil c hwritten] at this
    cases this

/-- **A text that was written and then trimmed divides among the items again**, and each finds what
it stated. The blanks before the first piece may or may not have been dropped: once a blank item has
been passed, none are left. -/
theorem reads_written (h : ∀ item ∈ items, item.isFaithful = true) (ht : t.HasPlainYear)
    {cs : List Char}
    (hcs : cs = trimEnd (written t items) ∨ cs = skipBlanks (trimEnd (written t items))) :
    Reads items cs (items.flatMap (Item.states t.display)) := by
  induction items generalizing cs with
  | nil =>
      have hnil : cs = [] := by rcases hcs with hcs | hcs <;> exact hcs
      rw [hnil]
      exact .nil
  | cons item items ih =>
      have hrest := fun i hi => h i (List.mem_cons_of_mem item hi)
      rw [List.flatMap_cons]
      rw [written_cons] at hcs
      rcases Item.isFaithful_cases (h item List.mem_cons_self) ht with
        ⟨c, rfl, hc⟩ | ⟨piece, hpiece, hsolid, htakes⟩
      · -- The blank takes what blanks there are, and nothing but the rest, trimmed, is left.
        have hskip : skipBlanks cs = skipBlanks (trimEnd (written t items)) := by
          rcases hcs with rfl | rfl
          · exact skipBlanks_trimEnd_cons hc _
          · rw [skipBlanks_skipBlanks]
            exact skipBlanks_trimEnd_cons hc _
        obtain ⟨blanks, hb, hdivided⟩ := exists_blanks cs
        rw [hdivided, hskip]
        exact .cons (.blank hb fun d hd => isBlank_head_skipBlanks hd) (ih hrest (Or.inr rfl))
      · have hcs : cs = piece ++ trimEnd (written t items) := by
          rw [hpiece, Option.getD_some, hsolid.trimEnd_append, hsolid.skipBlanks_append,
            or_self] at hcs
          exact hcs
        rw [hcs]
        exact .cons (htakes _) (ih hrest (Or.inl rfl))

/-- What a text says that was written and then trimmed: the truth about the fields that its items
fix, however often they do, and nothing about the others. -/
theorem readFields_written (h : ∀ item ∈ items, item.isFaithful = true) (ht : t.HasPlainYear) :
    ∃ fields, readFields items (trim (written t items)) = .ok fields ∧
      fields.Say (items.flatMap Item.mentions) t.display := by
  have hreads := reads_written h ht (Or.inr rfl)
  rw [skipBlanks_trimEnd] at hreads
  obtain ⟨fields, hset, hsay⟩ := exists_say t.display items
  exact ⟨fields, readFields_of_reads hreads hset, hsay⟩

end Pattern

end QueryWindow
