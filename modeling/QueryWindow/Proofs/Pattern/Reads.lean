import QueryWindow.Proofs.Pattern.Numbers

/-!
# QueryWindow.Proofs.Pattern.Reads

**Reading by items, as a grammar.** Two things happen when a text is read: the items cut it into
pieces, and the facts they find are put together. Here they come apart. `Item.Takes` says which
piece an item takes from the front of a text and what it finds there, `Pattern.Reads` is the
division of a whole text, and `Fields.setAll` puts the facts together; a text is read exactly if it
divides and its facts do not contradict one another (`Pattern.readFields_eq_ok_iff`).

The grammar covers the items of which dates and times are usually made: characters, blanks, numbers,
names of months and halves of the day.
-/

namespace QueryWindow

/-! ### Facts -/

namespace Fields

variable {fields result : Fields}

theorem setAll_append (fields : Fields) (facts more : List (Field × Int)) :
    fields.setAll (facts ++ more) = (fields.setAll facts).bind (·.setAll more) := by
  induction facts generalizing fields with
  | nil => rfl
  | cons fact facts ih =>
      rw [List.cons_append, setAll, setAll]
      cases hset : fields.set fact.1 fact.2 with
      | ok next => exact ih next
      | error e => rfl

theorem setAll_append_eq_ok_iff {facts more : List (Field × Int)} :
    fields.setAll (facts ++ more) = .ok result ↔
      ∃ next, fields.setAll facts = .ok next ∧ next.setAll more = .ok result := by
  rw [setAll_append, exceptBind_eq_ok]

theorem setAll_singleton (fields : Fields) (field : Field) (value : Int) :
    fields.setAll [(field, value)] = fields.set field value := by
  rw [setAll]
  cases hset : fields.set field value <;> rfl

/-- Setting a field to the value it has anyway, or has not yet. -/
theorem set_of_true {truth : Field → Int} (field : Field)
    (h : ∀ f, fields f = none ∨ fields f = some (truth f)) :
    ∃ result, fields.set field (truth field) = .ok result ∧
      ∀ f, result f = if f = field then some (truth f) else fields f := by
  unfold set
  rcases h field with hnone | hsome
  · rw [hnone]
    refine ⟨_, rfl, fun f => ?_⟩
    by_cases hf : f = field
    · rw [if_pos hf, if_pos hf, hf]
    · rw [if_neg hf, if_neg hf]
  · rw [hsome]
    refine ⟨fields, if_pos rfl, fun f => ?_⟩
    by_cases hf : f = field
    · rw [if_pos hf, hf, hsome]
    · rw [if_neg hf]

/-- **Facts that are all true are never contradictory**, in whichever order and however often they
are given; together they give the fields they mention. -/
theorem setAll_of_true {truth : Field → Int} (facts : List (Field × Int))
    (hfacts : ∀ fact ∈ facts, fact.2 = truth fact.1)
    (h : ∀ f, fields f = none ∨ fields f = some (truth f)) :
    ∃ result, fields.setAll facts = .ok result ∧
      ∀ f, result f = if f ∈ facts.map Prod.fst then some (truth f) else fields f := by
  -- What carries the induction is that no field ever has a value other than the true one.
  induction facts generalizing fields with
  | nil => exact ⟨fields, rfl, fun f => by simp⟩
  | cons fact facts ih =>
      obtain ⟨field, value⟩ := fact
      obtain rfl : value = truth field := hfacts _ List.mem_cons_self
      obtain ⟨next, hset, hnext⟩ := set_of_true field h
      have hstill : ∀ f, next f = none ∨ next f = some (truth f) := by
        intro f
        rw [hnext]
        split
        · exact Or.inr rfl
        · exact h f
      obtain ⟨result, hall, hresult⟩ :=
        ih (fun fact hf => hfacts fact (List.mem_cons_of_mem _ hf)) hstill
      refine ⟨result, ?_, fun f => ?_⟩
      · rw [setAll, hset]
        exact hall
      · rw [hresult, hnext, List.map_cons]
        by_cases hf : f = field
        · simp [hf]
        · simp only [List.mem_cons, hf, false_or, if_false]

end Fields

/-! ### Items -/

namespace Item

/-- The piece of text that an item takes when it is followed by the given rest, and the facts that
it finds in it. -/
inductive Takes : Item → List Char → List Char → List (Field × Int) → Prop
  /-- A character takes itself. -/
  | literal (c : Char) (rest : List Char) : Takes (.literal c) [c] rest []
  /-- A blank takes all the blanks there are, or none. -/
  | blank {c : Char} {piece rest : List Char} (hb : ∀ d ∈ piece, isBlank d = true)
      (hr : ∀ d ∈ rest.head?, isBlank d = false) : Takes (.blank c) piece rest []
  /-- A number takes a numeral. -/
  | number {kind : Quantity} {padding : Padding} {piece rest : List Char} {value : Int}
      (h : kind.Numeral piece rest value) (hrange : kind.least ≤ value ∧ value ≤ kind.greatest) :
      Takes (.number kind padding) piece rest (kind.facts value)
  /-- The name of a month takes a name. -/
  | monthName {long : Bool} {piece rest : List Char} {place : Nat}
      (h : Name.find? monthNames long (piece ++ rest) = some (place, rest)) :
      Takes (.monthName long) piece rest [(.month, (place + 1 : Nat))]
  /-- A half of the day takes one of the two words. -/
  | half {capitals : Bool} {piece rest : List Char} {value : Nat}
      (h : readHalf (piece ++ rest) = .ok (value, rest)) :
      Takes (.half capitals) piece rest [(.half, value)]

theorem read_of_takes {item : Item} {piece rest : List Char} {facts : List (Field × Int)}
    {fields result : Fields} (h : item.Takes piece rest facts)
    (hset : fields.setAll facts = .ok result) :
    item.read fields (piece ++ rest) = .ok (result, rest) := by
  cases h with
  | literal c =>
      cases hset
      show (if c = c then Except.ok (fields, rest) else Except.error ReadError.invalid) = _
      rw [if_pos rfl]
  | blank hb hr =>
      cases hset
      show Except.ok (fields, skipBlanks (piece ++ rest)) = _
      rw [skipBlanks_append hb]
      cases rest with
      | nil => rfl
      | cons d rest => rw [skipBlanks_cons_of_not_blank (hr d rfl)]
  | number h hrange => exact Quantity.read_eq_ok_iff.2 ⟨piece, _, rfl, h, hrange, hset⟩
  | monthName h =>
      rw [Fields.setAll_singleton] at hset
      show (readName monthNames _ (piece ++ rest) >>= fun found =>
        fields.store .month (found.1 + 1, found.2)) = _
      rw [readName, h]
      show fields.store .month _ = _
      rw [Fields.store, hset]
      rfl
  | half h =>
      rw [Fields.setAll_singleton] at hset
      show (readHalf (piece ++ rest) >>= fun found => fields.store .half found) = _
      rw [h]
      show fields.store .half _ = _
      rw [Fields.store, hset]
      rfl

/-- The items that the grammar covers. -/
def isCommon : Item → Bool
  | literal _ | blank _ | number .. | monthName _ | half _ => true
  | _ => false

theorem exists_of_dropWord? {w cs rest : List Char} (h : Name.dropWord? w cs = some rest) :
    ∃ piece, cs = piece ++ rest := by
  induction w generalizing cs with
  | nil => exact ⟨[], Option.some.inj h⟩
  | cons c w ih =>
      cases cs with
      | nil => cases h
      | cons d cs =>
          rw [Name.dropWord?] at h
          split at h
          · obtain ⟨piece, rfl⟩ := ih h
            exact ⟨d :: piece, rfl⟩
          · cases h

theorem exists_of_find? {names : List String} {long : Bool} {cs rest : List Char} {place : Nat}
    (h : Name.find? names long cs = some (place, rest)) : ∃ piece, cs = piece ++ rest := by
  obtain ⟨⟨name, _⟩, -, h⟩ := List.exists_of_findSome?_eq_some h
  obtain ⟨tail, hshort, hfound⟩ := Option.map_eq_some_iff.1 h
  obtain ⟨piece, rfl⟩ := exists_of_dropWord? hshort
  obtain ⟨-, rfl⟩ := Prod.mk.inj hfound
  -- The remainder of the name belongs to the piece if it is there.
  split
  · cases hlong : Name.dropWord? (Name.remainder name) tail with
    | none => exact ⟨piece, rfl⟩
    | some rest =>
        obtain ⟨more, rfl⟩ := exists_of_dropWord? hlong
        exact ⟨piece ++ more, (List.append_assoc ..).symm⟩
  · exact ⟨piece, rfl⟩

theorem exists_of_readHalf {cs rest : List Char} {value : Nat}
    (h : readHalf cs = .ok (value, rest)) : ∃ piece, cs = piece ++ rest := by
  unfold readHalf at h
  split at h
  · rename_i hword
    cases h
    exact exists_of_dropWord? hword
  · rename_i hword
    cases h
    exact exists_of_dropWord? hword
  · cases h

theorem store_eq_ok_iff {fields result : Fields} {field : Field} {value : Nat}
    {tail rest : List Char} :
    fields.store field (value, tail) = .ok (result, rest) ↔
      fields.setAll [(field, (value : Int))] = .ok result ∧ tail = rest := by
  rw [Fields.store, exceptMap_eq_ok, Fields.setAll_singleton]
  constructor
  · intro h
    obtain ⟨next, hset, h⟩ := h
    cases h
    exact ⟨hset, rfl⟩
  · intro h
    obtain ⟨hset, rfl⟩ := h
    exact ⟨result, hset, rfl⟩

/-- What a common item reads is what it takes. -/
theorem takes_of_read {item : Item} {cs rest : List Char} {fields result : Fields}
    (hitem : item.isCommon = true) (h : item.read fields cs = .ok (result, rest)) :
    ∃ piece facts, cs = piece ++ rest ∧ item.Takes piece rest facts ∧
      fields.setAll facts = .ok result := by
  cases item with
  | literal c =>
      cases cs with
      | nil => cases h
      | cons d cs =>
          change (if c = d then _ else _) = _ at h
          split at h
          · rename_i heq
            cases h
            subst heq
            exact ⟨[c], [], rfl, .literal c _, rfl⟩
          · cases h
  | blank c =>
      cases h
      obtain ⟨blanks, hb, hcs⟩ := exists_blanks cs
      exact ⟨blanks, [], hcs, .blank hb fun d hd => isBlank_head_skipBlanks hd, rfl⟩
  | number kind padding =>
      obtain ⟨piece, value, rfl, hnumeral, hrange, hset⟩ := Quantity.read_eq_ok_iff.1 h
      exact ⟨piece, _, rfl, .number hnumeral hrange, hset⟩
  | monthName long =>
      obtain ⟨⟨place, tail⟩, hname, hstore⟩ := bind_eq_ok.1 h
      obtain ⟨hset, rfl⟩ := store_eq_ok_iff.1 hstore
      unfold readName at hname
      split at hname
      · rename_i hfind
        cases hname
        obtain ⟨piece, rfl⟩ := exists_of_find? hfind
        exact ⟨piece, _, rfl, .monthName hfind, hset⟩
      · cases hname
  | half capitals =>
      obtain ⟨⟨value, tail⟩, hhalf, hstore⟩ := bind_eq_ok.1 h
      obtain ⟨hset, rfl⟩ := store_eq_ok_iff.1 hstore
      obtain ⟨piece, rfl⟩ := exists_of_readHalf hhalf
      exact ⟨piece, _, rfl, .half hhalf, hset⟩
  | _ => cases hitem

end Item

/-! ### Patterns -/

namespace Pattern

/-- A whole text is divided among items: each takes its piece of what those before it have left. The
facts that are found come in the same order. -/
inductive Reads : List Item → List Char → List (Field × Int) → Prop
  /-- Nothing is left. -/
  | nil : Reads [] [] []
  /-- The first item takes a piece. -/
  | cons {item : Item} {items : List Item} {piece rest : List Char}
      {facts more : List (Field × Int)} (h : item.Takes piece rest facts)
      (hrest : Reads items rest more) : Reads (item :: items) (piece ++ rest) (facts ++ more)

theorem readItems_of_reads {items : List Item} {cs : List Char} {facts : List (Field × Int)}
    {fields result : Fields} (h : Reads items cs facts) (hset : fields.setAll facts = .ok result) :
    readItems items fields cs = .ok (result, []) := by
  induction h generalizing fields with
  | nil => cases hset; rfl
  | cons h _ ih =>
      obtain ⟨next, hfirst, hmore⟩ := Fields.setAll_append_eq_ok_iff.1 hset
      exact bind_eq_ok.2 ⟨_, Item.read_of_takes h hfirst, ih hmore⟩

theorem reads_of_readItems {items : List Item} {cs : List Char} {fields result : Fields}
    (hitems : ∀ item ∈ items, item.isCommon = true)
    (h : readItems items fields cs = .ok (result, [])) :
    ∃ facts, Reads items cs facts ∧ fields.setAll facts = .ok result := by
  induction items generalizing fields cs with
  | nil => cases h; exact ⟨[], .nil, rfl⟩
  | cons item items ih =>
      obtain ⟨⟨next, rest⟩, hread, hrest⟩ := bind_eq_ok.1 h
      obtain ⟨piece, facts, rfl, htakes, hset⟩ :=
        Item.takes_of_read (hitems item List.mem_cons_self) hread
      obtain ⟨more, hreads, hmore⟩ := ih (fun i hi => hitems i (List.mem_cons_of_mem _ hi)) hrest
      exact ⟨facts ++ more, .cons htakes hreads,
        Fields.setAll_append_eq_ok_iff.2 ⟨next, hset, hmore⟩⟩

theorem readFields_of_reads {items : List Item} {cs : List Char} {facts : List (Field × Int)}
    {fields : Fields} (h : Reads items cs facts) (hset : Fields.empty.setAll facts = .ok fields) :
    readFields items cs = .ok fields :=
  bind_eq_ok.2 ⟨_, readItems_of_reads h hset, rfl⟩

/-- **A text is read exactly if it divides among the items and the facts agree.** -/
theorem readFields_eq_ok_iff {items : List Item} {cs : List Char} {fields : Fields}
    (hitems : ∀ item ∈ items, item.isCommon = true) :
    readFields items cs = .ok fields ↔
      ∃ facts, Reads items cs facts ∧ Fields.empty.setAll facts = .ok fields := by
  constructor
  · intro h
    obtain ⟨⟨result, rest⟩, hread, h⟩ := bind_eq_ok.1 h
    dsimp only at h
    split at h
    · rename_i hempty
      obtain rfl := List.isEmpty_iff.1 hempty
      cases h
      exact reads_of_readItems hitems hread
    · cases h
  · intro h
    obtain ⟨facts, hreads, hset⟩ := h
    exact readFields_of_reads hreads hset

/-- An invalid item takes nothing, so that a pattern with one cannot be read to its end. -/
theorem readItems_ne_ok_of_invalid_mem {items : List Item} (h : .invalid ∈ items)
    (fields : Fields) (cs : List Char) (result : Fields × List Char) :
    readItems items fields cs ≠ .ok result := by
  induction items generalizing fields cs with
  | nil => cases h
  | cons item items ih =>
      intro hread
      obtain ⟨⟨next, rest⟩, hitem, hrest⟩ := bind_eq_ok.1 hread
      rcases List.mem_cons.1 h with rfl | hmem
      · cases hitem
      · exact ih hmem next rest hrest

theorem readFields_ne_ok_of_invalid_mem {items : List Item} (h : .invalid ∈ items)
    (cs : List Char) (fields : Fields) : readFields items cs ≠ .ok fields := by
  intro hread
  obtain ⟨result, hitems, -⟩ := bind_eq_ok.1 hread
  exact readItems_ne_ok_of_invalid_mem h .empty cs result hitems

/-! ### Dividing a text item by item -/

variable {items : List Item} {cs : List Char} {facts : List (Field × Int)}

theorem reads_nil_iff : Reads [] cs facts ↔ cs = [] ∧ facts = [] := by
  constructor
  · intro h
    cases h
    exact ⟨rfl, rfl⟩
  · intro h
    obtain ⟨rfl, rfl⟩ := h
    exact .nil

theorem reads_literal_cons_iff {c : Char} :
    Reads (.literal c :: items) cs facts ↔ ∃ rest, cs = c :: rest ∧ Reads items rest facts := by
  constructor
  · intro h
    cases h with
    | cons htakes hrest =>
        cases htakes
        exact ⟨_, rfl, hrest⟩
  · intro h
    obtain ⟨rest, rfl, hrest⟩ := h
    exact .cons (.literal c rest) hrest

/-- Where a blank may stand, all blanks are skipped. -/
theorem reads_blank_cons_iff {c : Char} :
    Reads (.blank c :: items) cs facts ↔ Reads items (skipBlanks cs) facts := by
  constructor
  · intro h
    cases h with
    | @cons _ _ piece rest _ _ htakes hrest =>
        cases htakes with
        | blank hb hr =>
            have hskip : skipBlanks (piece ++ rest) = rest := by
              rw [skipBlanks_append hb]
              cases rest with
              | nil => rfl
              | cons d rest => exact skipBlanks_cons_of_not_blank (hr d rfl) rest
            rw [hskip]
            exact hrest
  · intro h
    obtain ⟨blanks, hb, hcs⟩ := exists_blanks cs
    rw [hcs]
    refine .cons (.blank hb fun d hd => ?_) h
    exact isBlank_head_skipBlanks hd

theorem reads_number_cons_iff {kind : Quantity} {padding : Padding} :
    Reads (.number kind padding :: items) cs facts ↔
      ∃ piece rest value more, cs = piece ++ rest ∧ kind.Numeral piece rest value ∧
        (kind.least ≤ value ∧ value ≤ kind.greatest) ∧ Reads items rest more ∧
        facts = kind.facts value ++ more := by
  constructor
  · intro h
    cases h with
    | @cons _ _ piece rest _ more htakes hrest =>
        cases htakes with
        | @number _ _ _ _ value hnumeral hrange =>
            exact ⟨piece, rest, value, more, rfl, hnumeral, hrange, hrest, rfl⟩
  · intro h
    obtain ⟨piece, rest, value, more, rfl, hnumeral, hrange, hrest, rfl⟩ := h
    exact .cons (.number hnumeral hrange) hrest

end Pattern

end QueryWindow
