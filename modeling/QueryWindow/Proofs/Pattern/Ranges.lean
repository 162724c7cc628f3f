import QueryWindow.Proofs.Calendar.DayNumber
import QueryWindow.Proofs.Pattern.Reach

/-!
# QueryWindow.Proofs.Pattern.Ranges

**Whatever a text says, it says within range.** Every field has a least and a greatest value, and
reading never leaves this range (`Fields.InRange`): it holds before anything is read, each item
keeps it, and so does what Unix seconds add. The numbers of a pattern are checked when they are
read; names, halves of the day, fractions and offsets are in range by the way they are read.

A fraction has to have at most nine digits to be less than a second. The items of a pattern never
ask for more (`Pattern.fits_of_mem_itemsFrom`).
-/

namespace QueryWindow

/-! ### The range of a field -/

namespace Field

/-- The least value a field can be given. -/
def least : Field → Int
  | year | isoYear => -signedHalfWordLimit
  | quarter | month | day | isoWeek | ordinal => 1
  -- Two digits of hours and two of minutes below sixty, in either direction.
  | offset => -(99 * 3600 + 59 * 60)
  | _ => 0

/-- The greatest value a field can be given. -/
def greatest : Field → Int
  | year | isoYear => signedHalfWordLimit - 1
  | century | yearOfCentury | isoYearOfCentury => 99
  | quarter => 4
  | month => 12
  | day => 31
  | weekFromSunday | weekFromMonday | isoWeek => 53
  | weekday => 6
  | ordinal => 366
  | half => 1
  | hourOfHalf => 11
  | minute => 59
  | second => 60
  | nanosecond => 999999999
  | unixSeconds => signedWordLimit - 1
  | offset => 99 * 3600 + 59 * 60

/-- The value is one the field can be given. -/
def Admits (field : Field) (value : Int) : Prop := field.least ≤ value ∧ value ≤ field.greatest

instance (field : Field) (value : Int) : Decidable (field.Admits value) :=
  inferInstanceAs (Decidable (_ ∧ _))

end Field

/-- What a number fixes is in range if the number is. -/
theorem Quantity.admits_of_mem_facts {kind : Quantity} {value : Int}
    (hrange : kind.least ≤ value ∧ value ≤ kind.greatest) :
    ∀ fact ∈ kind.facts value, fact.1.Admits fact.2 := by
  cases kind <;>
    simp only [facts, List.forall_mem_cons, List.not_mem_nil, false_imp_iff, implies_true, and_true,
      Field.Admits, Field.least, Field.greatest] <;>
    simp only [least, greatest] at hrange <;> omega

namespace Fields

/-- Every field that is given has a value within its range. -/
def InRange (fields : Fields) : Prop :=
  ∀ field, ∀ value ∈ fields field, field.Admits value

variable {fields result : Fields}

theorem inRange_empty : empty.InRange := nofun

theorem InRange.set (h : fields.InRange) {field : Field} {value : Int} (hvalue : field.Admits value)
    (hset : fields.set field value = .ok result) : result.InRange := by
  intro other given hgiven
  by_cases hother : other = field
  · subst hother
    rw [get_of_set hset] at hgiven
    obtain rfl := Option.some.inj hgiven
    exact hvalue
  · rw [get_of_set_of_ne hset hother] at hgiven
    exact h other given hgiven

theorem InRange.setAll (h : fields.InRange) {facts : List (Field × Int)}
    (hfacts : ∀ fact ∈ facts, fact.1.Admits fact.2) (hset : fields.setAll facts = .ok result) :
    result.InRange := by
  induction facts generalizing fields with
  | nil =>
      cases hset
      exact h
  | cons fact facts ih =>
      obtain ⟨next, hfirst, hmore⟩ := exceptBind_eq_ok.1 hset
      obtain ⟨hfact, hfacts⟩ := List.forall_mem_cons.1 hfacts
      exact ih (h.set hfact hfirst) hfacts hmore

theorem InRange.store (h : fields.InRange) {field : Field} {value : Nat} {tail rest : List Char}
    (hvalue : field.Admits value) (hstore : fields.store field (value, tail) = .ok (result, rest)) :
    result.InRange := by
  obtain ⟨next, hset, heq⟩ := exceptMap_eq_ok.1 hstore
  cases heq
  exact h.set hvalue hset

end Fields

/-! ### What is read besides numbers -/

theorem lt_length_of_readName {names : List String} {long : Bool} {cs rest : List Char}
    {place : Nat} (h : readName names long cs = .ok (place, rest)) : place < names.length := by
  unfold readName at h
  split at h
  · rename_i hfind
    cases h
    obtain ⟨⟨name, place⟩, hmem, hfound⟩ := List.exists_of_findSome?_eq_some hfind
    obtain ⟨tail, -, hfound⟩ := Option.map_eq_some_iff.1 hfound
    obtain ⟨rfl, -⟩ := Prod.mk.inj hfound
    exact List.snd_lt_of_mem_zipIdx hmem
  · cases h

theorem le_one_of_readHalf {cs rest : List Char} {value : Nat}
    (h : readHalf cs = .ok (value, rest)) : value ≤ 1 := by
  unfold readHalf at h
  split at h
  · cases h
    exact Nat.zero_le 1
  · cases h
    exact Nat.le_refl 1
  · cases h

/-- A number of so many digits at most is less than a one with as many zeros. -/
theorem lt_pow_of_readNatural {least limit value : Nat} {cs rest : List Char}
    (h : readNatural least (some limit) cs = .ok (value, rest)) : value < 10 ^ limit := by
  obtain ⟨tail, -, hrun⟩ := exists_isRun_leadingDigits (some limit) cs
  have hlt := Digits.value_lt_pow hrun.allDigits
  unfold readNatural at h
  dsimp only at h
  split at h
  · cases h
  · split at h
    · cases h
    · cases h
      exact hlt.trans_le (Nat.pow_le_pow_right (by decide) (hrun.within limit rfl))

/-- The first digits of nine amount to less than a second. -/
theorem admits_scaled {count value : Nat} (hcount : count ≤ 9) (h : value < 10 ^ count) :
    Field.nanosecond.Admits (value * Digits.weight 10 (9 - count) : Nat) := by
  have hlt : value * 10 ^ (9 - count) < 10 ^ 9 :=
    calc value * 10 ^ (9 - count) < 10 ^ count * 10 ^ (9 - count) :=
          Nat.mul_lt_mul_of_pos_right h (Nat.pow_pos (by decide))
      _ = 10 ^ 9 := by rw [← Nat.pow_add, Nat.add_sub_cancel' hcount]
  have hweight : Digits.weight 10 (9 - count) = 10 ^ (9 - count) := rfl
  rw [hweight]
  constructor
  · exact Int.natCast_nonneg _
  · show ((value * 10 ^ (9 - count) : Nat) : Int) ≤ 999999999
    omega

/-- A fraction is less than a second, however many digits it has. -/
theorem admits_of_readFraction {cs rest : List Char} {value : Nat}
    (h : readFraction cs = .ok (value, rest)) : Field.nanosecond.Admits value := by
  obtain ⟨found, -, heq⟩ := exceptMap_eq_ok.1 h
  cases heq
  obtain ⟨tail, -, hrun⟩ := exists_isRun_leadingDigits none cs
  have hlt := Digits.value_lt_pow fun c hc => hrun.allDigits c (List.mem_of_mem_take (i := 9) hc)
  have hcount : 9 - ((leadingDigits none cs).take 9).length =
      9 - (leadingDigits none cs).length := by
    rw [List.length_take]
    omega
  have hadmits := admits_scaled (List.length_take_le 9 _) hlt
  rw [hcount] at hadmits
  exact hadmits

theorem admits_of_readFractionDigits {count value : Nat} {cs rest : List Char} (hcount : count ≤ 9)
    (h : readFractionDigits count cs = .ok (value, rest)) : Field.nanosecond.Admits value := by
  obtain ⟨⟨digits, tail⟩, hread, heq⟩ := exceptMap_eq_ok.1 h
  cases heq
  exact admits_scaled hcount (lt_pow_of_readNatural hread)

theorem eq_of_readSign {cs rest : List Char} {sign : Int} (h : readSign cs = .ok (sign, rest)) :
    sign = 1 ∨ sign = -1 := by
  unfold readSign at h
  split at h <;> cases h <;> simp

theorem lt_of_readOffsetMinutes {mayLack : Bool} {cs rest : List Char} {minutes : Nat}
    (h : readOffsetMinutes mayLack cs = .ok (minutes, rest)) : minutes < 60 := by
  unfold readOffsetMinutes at h
  split at h
  · cases h
    decide
  · obtain ⟨⟨found, tail⟩, -, h⟩ := bind_eq_ok.1 h
    dsimp only at h
    split at h
    · cases h
      assumption
    · cases h

theorem admits_of_readOffset {letterAllowed minutesMayLack : Bool} {cs rest : List Char}
    {seconds : Int} (h : readOffset letterAllowed minutesMayLack cs = .ok (seconds, rest)) :
    Field.offset.Admits seconds := by
  have hzero : Field.offset.Admits 0 := by decide
  unfold readOffset at h
  split at h
  · cases h
    exact hzero
  · cases h
    exact hzero
  · obtain ⟨⟨sign, afterSign⟩, hsign, h⟩ := bind_eq_ok.1 h
    obtain ⟨⟨hours, afterHours⟩, hhours, h⟩ := bind_eq_ok.1 h
    obtain ⟨⟨minutes, afterMinutes⟩, hminutes, h⟩ := bind_eq_ok.1 h
    cases h
    have hhours : hours < 10 ^ 2 := lt_pow_of_readNatural hhours
    have hminutes := lt_of_readOffsetMinutes hminutes
    simp only [Field.Admits, Field.least, Field.greatest]
    rcases eq_of_readSign hsign with rfl | rfl <;> omega

/-! ### Items -/

namespace Item

/-- A fraction of a fixed number of digits has at most nine. -/
def Fits : Item → Prop
  | fractionAfterDot count | fractionDigits count => count ≤ 9
  | _ => True

variable {fields result : Fields} {cs rest : List Char}

theorem inRange_afterDot {read : List Char → Except ReadError (Nat × List Char)}
    (hread : ∀ {cs value rest}, read cs = .ok (value, rest) → Field.nanosecond.Admits value)
    (h : fields.InRange)
    (hresult : (match cs with
      | '.' :: cs => do fields.store .nanosecond (← read cs)
      | _ => .ok (fields, cs)) = .ok (result, rest)) : result.InRange := by
  split at hresult
  · obtain ⟨⟨value, tail⟩, hvalue, hstore⟩ := bind_eq_ok.1 hresult
    exact h.store (hread hvalue) hstore
  · cases hresult
    exact h

theorem inRange_readSimple {item : Item} (hfits : item.Fits) (h : fields.InRange)
    (hread : item.readSimple fields cs = .ok (result, rest)) : result.InRange := by
  cases item with
  | literal c =>
      cases cs with
      | nil => cases hread
      | cons d cs =>
          change (if c = d then _ else _) = _ at hread
          split at hread
          · cases hread
            exact h
          · cases hread
  | blank c =>
      cases hread
      exact h
  | number kind padding =>
      obtain ⟨_, value, -, -, hrange, hset⟩ := Quantity.read_eq_ok_iff.1 hread
      exact h.setAll (Quantity.admits_of_mem_facts hrange) hset
  | monthName long =>
      obtain ⟨⟨place, tail⟩, hname, hstore⟩ := bind_eq_ok.1 hread
      have hplace : place < 12 := lt_length_of_readName hname
      refine h.store ?_ hstore
      simp only [Field.Admits, Field.least, Field.greatest]
      omega
  | weekdayName long =>
      obtain ⟨⟨place, tail⟩, hname, hstore⟩ := bind_eq_ok.1 hread
      have hplace : place < 7 := lt_length_of_readName hname
      refine h.store ?_ hstore
      simp only [Field.Admits, Field.least, Field.greatest]
      omega
  | half capitals =>
      obtain ⟨⟨value, tail⟩, hhalf, hstore⟩ := bind_eq_ok.1 hread
      have hvalue := le_one_of_readHalf hhalf
      refine h.store ?_ hstore
      simp only [Field.Admits, Field.least, Field.greatest]
      omega
  | fraction => exact inRange_afterDot admits_of_readFraction h hread
  | fractionAfterDot count => exact inRange_afterDot (admits_of_readFractionDigits hfits) h hread
  | fractionDigits count =>
      obtain ⟨⟨value, tail⟩, hvalue, hstore⟩ := bind_eq_ok.1 hread
      exact h.store (admits_of_readFractionDigits hfits hvalue) hstore
  | offset lenient =>
      obtain ⟨⟨seconds, tail⟩, hoffset, hread⟩ := bind_eq_ok.1 hread
      obtain ⟨next, hset, heq⟩ := bind_eq_ok.1 hread
      cases heq
      exact h.set (admits_of_readOffset hoffset) hset
  | zoneName =>
      cases hread
      exact h
  | zonedTimestamp => cases hread
  | invalid => cases hread

theorem inRange_readSimples {items : List Item} (hfits : ∀ item ∈ items, item.Fits)
    (h : fields.InRange) (hread : readSimples items fields cs = .ok (result, rest)) :
    result.InRange := by
  induction items generalizing fields cs with
  | nil =>
      cases hread
      exact h
  | cons item items ih =>
      obtain ⟨⟨next, tail⟩, hitem, hitems⟩ := bind_eq_ok.1 hread
      obtain ⟨hfirst, hfits⟩ := List.forall_mem_cons.1 hfits
      exact ih hfits (inRange_readSimple hfirst h hitem) hitems

theorem admits_of_readZone {seconds : Int} (h : readZone cs = .ok (seconds, rest)) :
    Field.offset.Admits seconds := by
  unfold readZone at h
  split at h
  · cases h
    decide
  · exact admits_of_readOffset h

/-- **An item keeps the fields in range**, whatever the text is. -/
theorem inRange_read {item : Item} (hfits : item.Fits) (h : fields.InRange)
    (hread : item.read fields cs = .ok (result, rest)) : result.InRange := by
  by_cases hzoned : item = .zonedTimestamp
  · subst hzoned
    have hdateFits : ∀ item ∈ rfc3339Date, item.Fits := by simp [rfc3339Date, Fits]
    have htimeFits : ∀ item ∈ rfc3339Time, item.Fits := by simp [rfc3339Time, Fits]
    obtain ⟨⟨dated, _⟩, hdate, hread⟩ := bind_eq_ok.1 hread
    obtain ⟨_, -, hread⟩ := bind_eq_ok.1 hread
    obtain ⟨⟨timed, _⟩, htime, hread⟩ := bind_eq_ok.1 hread
    obtain ⟨⟨seconds, _⟩, hzone, hread⟩ := bind_eq_ok.1 hread
    obtain ⟨next, hset, heq⟩ := bind_eq_ok.1 hread
    cases heq
    have hdated := inRange_readSimples hdateFits h hdate
    exact (inRange_readSimples htimeFits hdated htime).set (admits_of_readZone hzone) hset
  · rw [(read_eq_readSimple hzoned).1] at hread
    exact inRange_readSimple hfits h hread

end Item

/-! ### Patterns -/

/-- A specifier that has been begun with a number of digits has at most nine. -/
def Scan.Fits : Scan → Prop
  | dotDigits count | digits count => count ≤ 9
  | _ => True

theorem Item.fits_ofChar (c : Char) : (ofChar c).Fits := by
  cases hc : isBlank c <;> simp [ofChar, Fits, hc]

theorem Item.fits_ofPadded (padding : Padding) (c : Char) : (ofPadded padding c).Fits := by
  unfold ofPadded
  split <;> trivial

/-- No letter directly after a percent sign stands for a fraction. -/
theorem Item.fits_of_mem_ofSpecifier (c : Char) : ∀ item ∈ ofSpecifier c, item.Fits := by
  unfold ofSpecifier
  split
  case h_23 =>
    split <;> simp [Fits]
  all_goals
    simp [slashedDate, hyphenatedDate, hourMinute, hourMinuteSecond, halfDayTime, longTimestamp,
      namedMonthDate, Fits]

/-- One character of a pattern leads to no fraction of more than nine digits. -/
theorem Scan.fits_step {scan : Scan} (h : scan.Fits) (c : Char) :
    (∀ item ∈ (scan.step c).1, item.Fits) ∧ (scan.step c).2.Fits := by
  fun_cases Scan.step scan c
  case case2 => exact ⟨by simp [Item.fits_ofChar], trivial⟩
  case case12 => exact ⟨Item.fits_of_mem_ofSpecifier c, trivial⟩
  case case13 => exact ⟨by simp [Item.fits_ofPadded], trivial⟩
  case case14 => exact ⟨by split <;> simp [Item.Fits], trivial⟩
  case case23 | case24 =>
    refine ⟨List.forall_mem_singleton.2 ?_, trivial⟩
    -- The letter that ends a number of digits makes a fraction of as many.
    split
    · exact h
    · trivial
  all_goals simp [Item.Fits, Scan.Fits]

namespace Pattern

theorem fits_of_mem_itemsFrom {scan : Scan} (h : scan.Fits) {cs : List Char} :
    ∀ item ∈ itemsFrom scan cs, item.Fits := by
  induction cs generalizing scan with
  | nil =>
      intro item hitem
      cases scan with
      | text => cases hitem
      | _ =>
        obtain rfl := List.mem_singleton.1 hitem
        trivial
  | cons c cs ih =>
      rw [itemsFrom_cons]
      have hstep := Scan.fits_step h c
      exact List.forall_mem_append.2 ⟨hstep.1, ih hstep.2⟩

theorem inRange_readItems {items : List Item} {fields result : Fields} {cs rest : List Char}
    (hfits : ∀ item ∈ items, item.Fits) (h : fields.InRange)
    (hread : readItems items fields cs = .ok (result, rest)) : result.InRange := by
  induction items generalizing fields cs with
  | nil =>
      cases hread
      exact h
  | cons item items ih =>
      obtain ⟨⟨next, tail⟩, hitem, hitems⟩ := bind_eq_ok.1 hread
      obtain ⟨hfirst, hfits⟩ := List.forall_mem_cons.1 hfits
      exact ih hfits (Item.inRange_read hfirst h hitem) hitems

/-- **What a text says by a pattern is in range.** -/
theorem inRange_readFields {pattern : String} {cs : List Char} {fields : Fields}
    (h : readFields (items pattern) cs = .ok fields) : fields.InRange := by
  obtain ⟨⟨result, rest⟩, hread, hend⟩ := bind_eq_ok.1 h
  dsimp only at hend
  split at hend
  · cases hend
    exact inRange_readItems (@fits_of_mem_itemsFrom .text trivial _) Fields.inRange_empty hread
  · cases hend

end Pattern

end QueryWindow
