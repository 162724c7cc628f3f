import QueryWindow.Proofs.Pattern.Faithful

/-!
# QueryWindow.Proofs.Pattern.Reach

**Which fields an item can set.** Reading a text changes fields one item at a time, and an item only
ever reaches the few fields that it is about, whatever the text is (`Item.changesOnly_read`). A
field that no item of a pattern reaches is therefore still empty at the end
(`Pattern.eq_none_of_readFields`), so that what a pattern can tell is limited by what stands in it.

The notation of RFC 3339 is a sequence of items and reaches what these do.
-/

namespace QueryWindow

/-! ### Changes -/

namespace Fields

/-- Every field that differs is among the fields reached. -/
def ChangesOnly (reached : List Field) (fields result : Fields) : Prop :=
  ∀ field, field ∉ reached → result field = fields field

variable {fields next result : Fields} {reached more : List Field}

theorem ChangesOnly.refl (reached : List Field) (fields : Fields) :
    ChangesOnly reached fields fields :=
  fun _ _ => rfl

theorem ChangesOnly.trans (h : ChangesOnly reached fields next)
    (hmore : ChangesOnly more next result) : ChangesOnly (reached ++ more) fields result := by
  intro field hfield
  rw [List.mem_append, not_or] at hfield
  exact (hmore field hfield.2).trans (h field hfield.1)

theorem changesOnly_set {field : Field} {value : Int} (h : fields.set field value = .ok result) :
    ChangesOnly [field] fields result :=
  fun _ hother => get_of_set_of_ne h fun heq => hother (List.mem_singleton.2 heq)

/-- Facts change the fields that they are about. -/
theorem changesOnly_setAll {facts : List (Field × Int)} (h : fields.setAll facts = .ok result) :
    ChangesOnly (facts.map Prod.fst) fields result := by
  induction facts generalizing fields with
  | nil =>
      cases h
      exact .refl [] _
  | cons fact facts ih =>
      obtain ⟨next, hset, hmore⟩ := exceptBind_eq_ok.1 h
      exact (changesOnly_set hset).trans (ih hmore)

theorem changesOnly_store {field : Field} {found : Nat × List Char} {rest : List Char}
    (h : fields.store field found = .ok (result, rest)) : ChangesOnly [field] fields result := by
  obtain ⟨next, hset, heq⟩ := exceptMap_eq_ok.1 h
  cases heq
  exact changesOnly_set hset

end Fields

open Fields (ChangesOnly)

/-! ### Items -/

theorem Quantity.map_fst_facts (kind : Quantity) (value : Int) :
    (kind.facts value).map Prod.fst = kind.mentions := by
  cases kind <;> rfl

theorem Quantity.changesOnly_read {kind : Quantity} {fields result : Fields} {cs rest : List Char}
    (h : kind.read fields cs = .ok (result, rest)) : ChangesOnly kind.mentions fields result := by
  obtain ⟨_, value, -, -, -, hset⟩ := Quantity.read_eq_ok_iff.1 h
  rw [← kind.map_fst_facts value]
  exact Fields.changesOnly_setAll hset

namespace Item

/-- The fields that an item may set, the notation of RFC 3339 apart. -/
def simpleReach : Item → List Field
  | number kind _ => kind.mentions
  | monthName _ => [.month]
  | weekdayName _ => [.weekday]
  | half _ => [.half]
  | fraction | fractionAfterDot _ | fractionDigits _ => [.nanosecond]
  | offset _ => [.offset]
  | literal _ | blank _ | zoneName | zonedTimestamp | invalid => []

/-- The fields that an item may set. -/
def reach : Item → List Field
  | zonedTimestamp =>
    rfc3339Date.flatMap simpleReach ++ (rfc3339Time.flatMap simpleReach ++ [.offset])
  | item => item.simpleReach

variable {fields result : Fields} {cs rest : List Char}

/-- A fraction reaches the nanoseconds, if there is one. -/
theorem changesOnly_afterDot {read : List Char → Except ReadError (Nat × List Char)}
    (h : (match cs with
      | '.' :: cs => do fields.store .nanosecond (← read cs)
      | _ => .ok (fields, cs)) = .ok (result, rest)) : ChangesOnly [.nanosecond] fields result := by
  split at h
  · obtain ⟨found, -, hstore⟩ := bind_eq_ok.1 h
    exact Fields.changesOnly_store hstore
  · cases h
    exact .refl _ _

theorem changesOnly_readSimple {item : Item} (h : item.readSimple fields cs = .ok (result, rest)) :
    ChangesOnly item.simpleReach fields result := by
  cases item with
  | literal c =>
      cases cs with
      | nil => cases h
      | cons d cs =>
          change (if c = d then _ else _) = _ at h
          split at h
          · cases h
            exact .refl [] _
          · cases h
  | blank c =>
      cases h
      exact .refl [] _
  | number kind padding => exact Quantity.changesOnly_read h
  | monthName long =>
      obtain ⟨found, -, hstore⟩ := bind_eq_ok.1 h
      exact Fields.changesOnly_store hstore
  | weekdayName long =>
      obtain ⟨found, -, hstore⟩ := bind_eq_ok.1 h
      exact Fields.changesOnly_store hstore
  | half capitals =>
      obtain ⟨found, -, hstore⟩ := bind_eq_ok.1 h
      exact Fields.changesOnly_store hstore
  | fraction => exact changesOnly_afterDot h
  | fractionAfterDot count => exact changesOnly_afterDot h
  | fractionDigits count =>
      obtain ⟨found, -, hstore⟩ := bind_eq_ok.1 h
      exact Fields.changesOnly_store hstore
  | offset lenient =>
      obtain ⟨found, -, h⟩ := bind_eq_ok.1 h
      obtain ⟨next, hset, heq⟩ := bind_eq_ok.1 h
      cases heq
      exact Fields.changesOnly_set hset
  | zoneName =>
      cases h
      exact .refl [] _
  | zonedTimestamp => cases h
  | invalid => cases h

theorem changesOnly_readSimples {items : List Item}
    (h : readSimples items fields cs = .ok (result, rest)) :
    ChangesOnly (items.flatMap simpleReach) fields result := by
  induction items generalizing fields cs with
  | nil =>
      cases h
      exact .refl [] _
  | cons item items ih =>
      obtain ⟨⟨next, tail⟩, hitem, hitems⟩ := bind_eq_ok.1 h
      exact (changesOnly_readSimple hitem).trans (ih hitems)

/-- All other items are read, and reach, as they do within that notation. -/
theorem read_eq_readSimple {item : Item} (h : item ≠ .zonedTimestamp) :
    item.read = item.readSimple ∧ item.reach = item.simpleReach := by
  cases item with
  | zonedTimestamp => exact absurd rfl h
  | _ => exact ⟨rfl, rfl⟩

/-- **An item changes only what it reaches**, whatever the text is. -/
theorem changesOnly_read {item : Item} (h : item.read fields cs = .ok (result, rest)) :
    ChangesOnly item.reach fields result := by
  by_cases hzoned : item = .zonedTimestamp
  · subst hzoned
    obtain ⟨⟨dated, tail⟩, hdate, h⟩ := bind_eq_ok.1 h
    obtain ⟨_, -, h⟩ := bind_eq_ok.1 h
    obtain ⟨⟨timed, _⟩, htime, h⟩ := bind_eq_ok.1 h
    obtain ⟨_, -, h⟩ := bind_eq_ok.1 h
    obtain ⟨next, hset, heq⟩ := bind_eq_ok.1 h
    cases heq
    exact (changesOnly_readSimples hdate).trans
      ((changesOnly_readSimples htime).trans (Fields.changesOnly_set hset))
  · obtain ⟨hread, hreach⟩ := read_eq_readSimple hzoned
    rw [hread] at h
    rw [hreach]
    exact changesOnly_readSimple h

end Item

/-! ### Patterns -/

namespace Pattern

variable {items : List Item}

theorem changesOnly_readItems {fields result : Fields} {cs rest : List Char}
    (h : readItems items fields cs = .ok (result, rest)) :
    ChangesOnly (items.flatMap Item.reach) fields result := by
  induction items generalizing fields cs with
  | nil =>
      cases h
      exact .refl [] _
  | cons item items ih =>
      obtain ⟨⟨next, tail⟩, hitem, hitems⟩ := bind_eq_ok.1 h
      exact (Item.changesOnly_read hitem).trans (ih hitems)

/-- **A field that no item reaches is never given.** -/
theorem eq_none_of_readFields {cs : List Char} {fields : Fields} {field : Field}
    (h : readFields items cs = .ok fields) (hfield : ∀ item ∈ items, field ∉ item.reach) :
    fields field = none := by
  obtain ⟨⟨result, rest⟩, hread, hend⟩ := bind_eq_ok.1 h
  dsimp only at hend
  split at hend
  · cases hend
    refine changesOnly_readItems hread field fun hmem => ?_
    obtain ⟨item, hitem, hreached⟩ := List.mem_flatMap.1 hmem
    exact hfield item hitem hreached
  · cases hend

end Pattern

end QueryWindow
