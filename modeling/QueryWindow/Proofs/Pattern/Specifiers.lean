import QueryWindow.Formats
import QueryWindow.Proofs.Pattern.Faithful

/-!
# QueryWindow.Proofs.Pattern.Specifiers

**Whether a pattern can be written is decided by its text alone.** A pattern is cut, from the left,
into characters and specifiers, and most specifiers have a text for every timestamp. What stops the
writing is a place where a specifier is due and there is none, or one that asks for a zone, which
timestamps do not have (`Pattern.Unwritable`).

Specifiers are listed here as texts, apart from the scan that finds them. The two meet in three
facts about what follows a percent sign: a local specifier scans to writable items, a zone specifier
to an unwritable one, and anything else to `Item.invalid`.
-/

namespace QueryWindow

namespace Pattern

/-! ### Specifiers -/

/-- The letters that stand for a number. -/
def numberLetters : List Char :=
  ['Y', 'C', 'y', 'G', 'g', 'q', 'm', 'd', 'e', 'U', 'W', 'V', 'w', 'u', 'j', 'H', 'k', 'I', 'l',
    'M', 'S', 'f', 's']

/-- The letters that stand for something else than a number: a name, a half of the day, a character,
or several specifiers at once. -/
def otherLetters : List Char :=
  ['b', 'h', 'B', 'a', 'A', 'p', 'P', '%', 'n', 't', 'D', 'x', 'F', 'R', 'T', 'X', 'r', 'c', 'v']

/-- What may follow a percent sign and asks for no more than a date and a time. -/
inductive LocalSpecifier : List Char → Prop
  /-- A letter. -/
  | letter {c : Char} (h : c ∈ numberLetters ∨ c ∈ otherLetters) : LocalSpecifier [c]
  /-- A padding flag and the letter of a number. -/
  | padded {flag c : Char} (hflag : flag ∈ ['-', '_', '0']) (h : c ∈ numberLetters) :
      LocalSpecifier [flag, c]
  /-- A fraction with a dot, with as many digits as it needs. -/
  | fraction : LocalSpecifier ['.', 'f']
  /-- A fraction with a dot, with three, six or nine digits. -/
  | fractionAfterDot {digits : Char} (h : digits ∈ ['3', '6', '9']) :
      LocalSpecifier ['.', digits, 'f']
  /-- A fraction without a dot, with three, six or nine digits. -/
  | fractionDigits {digits : Char} (h : digits ∈ ['3', '6', '9']) : LocalSpecifier [digits, 'f']

/-- What may follow a percent sign and asks for an offset from universal time or the name of a
zone. -/
def zoneSpecifiers : List (List Char) :=
  [['z'], [':', 'z'], [':', ':', 'z'], [':', ':', ':', 'z'], ['#', 'z'], ['Z'], ['+']]

/-- What may follow a percent sign. -/
def IsSpecifier (spec : List Char) : Prop := LocalSpecifier spec ∨ spec ∈ zoneSpecifiers

/-- A character other than the percent sign, or a percent sign with its specifier. -/
inductive IsPiece : List Char → Prop
  | char {c : Char} (h : c ≠ '%') : IsPiece [c]
  | specifier {spec : List Char} (h : IsSpecifier spec) : IsPiece ('%' :: spec)

/-- What follows a percent sign cannot be written: it is no specifier, or it asks for a zone. -/
def Stops (rest : List Char) : Prop :=
  (∀ spec, IsSpecifier spec → ¬ spec <+: rest) ∨ ∃ spec ∈ zoneSpecifiers, spec <+: rest

/-- Somewhere in a pattern, behind whole pieces, stands a percent sign with something that cannot be
written. -/
def Unwritable (cs : List Char) : Prop :=
  ∃ (front : List (List Char)) (rest : List Char), (∀ piece ∈ front, IsPiece piece) ∧
    cs = front.flatten ++ '%' :: rest ∧ Stops rest

theorem unwritable_of_stops {rest : List Char} (h : Stops rest) : Unwritable ('%' :: rest) :=
  ⟨[], rest, nofun, rfl, h⟩

theorem Unwritable.append {piece cs : List Char} (hpiece : IsPiece piece) (h : Unwritable cs) :
    Unwritable (piece ++ cs) := by
  obtain ⟨front, rest, hfront, rfl, hstops⟩ := h
  refine ⟨piece :: front, rest, List.forall_mem_cons.2 ⟨hpiece, hfront⟩, ?_, hstops⟩
  rw [List.flatten_cons, List.append_assoc]

/-! ### What specifiers are scanned to -/

theorem mem_numberLetters_iff {c : Char} :
    c ∈ numberLetters ↔ ∃ kind padding, Item.quantity? c = some (kind, padding) := by
  constructor
  · intro h
    have hall : numberLetters.all fun c => (Item.quantity? c).isSome := by decide
    obtain ⟨⟨kind, padding⟩, hfound⟩ := Option.isSome_iff_exists.1 (List.all_eq_true.1 hall c h)
    exact ⟨kind, padding, hfound⟩
  · rintro ⟨kind, padding, h⟩
    unfold Item.quantity? at h
    split at h
    all_goals first | decide | cases h

theorem itemsFrom_padded (padding : Padding) (c : Char) (cs : List Char) :
    itemsFrom (.padded padding) (c :: cs) = Item.ofPadded padding c :: itemsFrom .text cs :=
  itemsFrom_cons _ _ _

/-- A local specifier is scanned to items that can be written, whatever follows it. -/
theorem LocalSpecifier.exists_items {spec : List Char} (h : LocalSpecifier spec) :
    ∃ items : List Item, (∀ item ∈ items, item.isWritable = true) ∧
      ∀ cs, itemsFrom .percent (spec ++ cs) = items ++ itemsFrom .text cs := by
  cases h with
  | @letter c h =>
      have hall : (numberLetters ++ otherLetters).all fun c =>
          Scan.percent.step c = (Item.ofSpecifier c, .text) &&
            (Item.ofSpecifier c).all Item.isWritable := by decide
      have hletter := List.all_eq_true.1 hall c (List.mem_append.2 h)
      simp only [Bool.and_eq_true, decide_eq_true_eq, List.all_eq_true] at hletter
      obtain ⟨hstep, hwritable⟩ := hletter
      refine ⟨Item.ofSpecifier c, hwritable, fun cs => ?_⟩
      rw [List.singleton_append, itemsFrom_cons, hstep]
  | @padded flag c hflag h =>
      obtain ⟨kind, own, hkind⟩ := mem_numberLetters_iff.1 h
      have hitem : ∀ padding, Item.ofPadded padding c = .number kind padding := by
        intro padding
        rw [Item.ofPadded, hkind]
      have hflagged : ∃ padding, ∀ cs,
          itemsFrom .percent (flag :: cs) = itemsFrom (.padded padding) cs := by
        simp only [List.mem_cons, List.not_mem_nil, or_false] at hflag
        rcases hflag with rfl | rfl | rfl
        · exact ⟨.none, itemsFrom_cons _ _⟩
        · exact ⟨.space, itemsFrom_cons _ _⟩
        · exact ⟨.zero, itemsFrom_cons _ _⟩
      obtain ⟨padding, hscan⟩ := hflagged
      refine ⟨[.number kind padding], by simp [Item.isWritable], fun cs => ?_⟩
      rw [List.cons_append, hscan, List.singleton_append, itemsFrom_padded, hitem]
      rfl
  | fraction => exact ⟨[.fraction], by simp [Item.isWritable], fun _ => rfl⟩
  | fractionAfterDot h =>
      simp only [List.mem_cons, List.not_mem_nil, or_false] at h
      rcases h with rfl | rfl | rfl
      all_goals exact ⟨[.fractionAfterDot _], by simp [Item.isWritable], fun _ => rfl⟩
  | fractionDigits h =>
      simp only [List.mem_cons, List.not_mem_nil, or_false] at h
      rcases h with rfl | rfl | rfl
      all_goals exact ⟨[.fractionDigits _], by simp [Item.isWritable], fun _ => rfl⟩

/-- A zone specifier is scanned to one item, which cannot be written. -/
theorem exists_item_of_mem_zoneSpecifiers {spec : List Char} (h : spec ∈ zoneSpecifiers) :
    ∃ item : Item, item.isWritable = false ∧
      ∀ cs, itemsFrom .percent (spec ++ cs) = item :: itemsFrom .text cs := by
  simp only [zoneSpecifiers, List.mem_cons, List.not_mem_nil, or_false] at h
  rcases h with rfl | rfl | rfl | rfl | rfl | rfl | rfl
  · exact ⟨.offset false, rfl, fun _ => rfl⟩
  · exact ⟨.offset false, rfl, fun _ => rfl⟩
  · exact ⟨.offset false, rfl, fun _ => rfl⟩
  · exact ⟨.offset false, rfl, fun _ => rfl⟩
  · exact ⟨.offset true, rfl, fun _ => rfl⟩
  · exact ⟨.zoneName, rfl, fun _ => rfl⟩
  · exact ⟨.zonedTimestamp, rfl, fun _ => rfl⟩

/-- Within a specifier, either one of the ways to complete it follows or it is invalid. -/
def Awaits (scan : Scan) (completes : List Char → Prop) : Prop :=
  ∀ cs, (∃ spec, completes spec ∧ spec <+: cs) ∨ .invalid ∈ itemsFrom scan cs

theorem awaits_of_step {scan : Scan} {completes : List Char → Prop} (hscan : scan ≠ .text)
    (h : ∀ c, completes [c] ∨ .invalid ∈ (scan.step c).1 ∨
      ∃ completesNext, Awaits (scan.step c).2 completesNext ∧
        ∀ spec, completesNext spec → completes (c :: spec)) : Awaits scan completes := by
  intro cs
  cases cs with
  | nil =>
      -- The pattern ends within the specifier.
      right
      cases scan with
      | text => exact absurd rfl hscan
      | _ => exact List.mem_singleton.2 rfl
  | cons c cs =>
      rw [itemsFrom_cons, List.mem_append]
      rcases h c with hlast | hinvalid | ⟨completesNext, hnext, hmore⟩
      · exact Or.inl ⟨[c], hlast, ⟨cs, rfl⟩⟩
      · exact Or.inr (Or.inl hinvalid)
      · rcases hnext cs with ⟨spec, hspec, hprefix⟩ | hinvalid
        · exact Or.inl ⟨c :: spec, hmore spec hspec, List.cons_prefix_cons.2 ⟨rfl, hprefix⟩⟩
        · exact Or.inr (Or.inr hinvalid)

theorem awaits_padded (padding : Padding) :
    Awaits (.padded padding) fun spec => ∃ c ∈ numberLetters, spec = [c] := by
  refine awaits_of_step (by simp) fun c => ?_
  cases hkind : Item.quantity? c with
  | some found => exact Or.inl ⟨c, mem_numberLetters_iff.2 ⟨_, _, hkind⟩, rfl⟩
  | none => simp [Scan.step, Item.ofPadded, hkind]

theorem awaits_letter {scan : Scan} {letter : Char} (hscan : scan ≠ .text)
    (h : ∀ c, c ≠ letter → .invalid ∈ (scan.step c).1) : Awaits scan (· = [letter]) := by
  refine awaits_of_step hscan fun c => ?_
  by_cases hc : c = letter
  · exact Or.inl (hc ▸ rfl)
  · exact Or.inr (Or.inl (h c hc))

theorem awaits_digits (count : Nat) : Awaits (.digits count) (· = ['f']) :=
  awaits_letter (by simp) fun c hc => by simp [Scan.step, hc]

theorem awaits_dotDigits (count : Nat) : Awaits (.dotDigits count) (· = ['f']) :=
  awaits_letter (by simp) fun c hc => by simp [Scan.step, hc]

theorem awaits_alternate : Awaits .alternate (· = ['z']) :=
  awaits_letter (by simp) fun c hc => by simp [Scan.step, hc]

/-- After its last colon a specifier needs the letter. -/
theorem awaits_colons : Awaits (.colons 1) fun spec => ':' :: spec ∈ zoneSpecifiers := by
  have hthree : Awaits (.colons 3) (· = ['z']) :=
    awaits_letter (by simp) fun c hz => by simp [Scan.step, hz]
  have htwo : Awaits (.colons 2) fun spec => spec = ['z'] ∨ spec = [':', 'z'] := by
    refine awaits_of_step (by simp) fun c => ?_
    by_cases hz : c = 'z'
    · simp [hz]
    · by_cases hc : c = ':'
      · subst hc
        exact Or.inr (Or.inr ⟨_, hthree, fun spec hspec => Or.inr (hspec ▸ rfl)⟩)
      · simp [Scan.step, hz, hc]
  refine awaits_of_step (by simp) fun c => ?_
  by_cases hz : c = 'z'
  · exact Or.inl (by simp [hz, zoneSpecifiers])
  · by_cases hc : c = ':'
    · subst hc
      refine Or.inr (Or.inr ⟨_, htwo, fun spec hspec => ?_⟩)
      rcases hspec with rfl | rfl <;> simp [zoneSpecifiers]
    · simp [Scan.step, hz, hc]

theorem awaits_dot : Awaits .dot fun spec => LocalSpecifier ('.' :: spec) := by
  have hdigits : ∀ digits ∈ ['3', '6', '9'], ∀ spec, spec = ['f'] →
      LocalSpecifier ('.' :: digits :: spec) := by
    rintro digits hdigits _ rfl
    exact .fractionAfterDot hdigits
  refine awaits_of_step (by simp) fun c => ?_
  unfold Scan.step
  split
  any_goals cases ‹Scan.dot = _›
  · exact Or.inl .fraction
  · exact Or.inr (Or.inr ⟨_, awaits_dotDigits 3, hdigits '3' (by simp)⟩)
  · exact Or.inr (Or.inr ⟨_, awaits_dotDigits 6, hdigits '6' (by simp)⟩)
  · exact Or.inr (Or.inr ⟨_, awaits_dotDigits 9, hdigits '9' (by simp)⟩)
  · exact Or.inr (Or.inl (List.mem_singleton.2 rfl))

/-- A letter is a specifier of its own or none at all. -/
theorem isSpecifier_or_eq_invalid (c : Char) :
    IsSpecifier [c] ∨ Item.ofSpecifier c = [.invalid] := by
  unfold Item.ofSpecifier
  split
  any_goals (refine Or.inl (Or.inl (.letter ?_)); decide)
  any_goals (refine Or.inl (Or.inr ?_); decide)
  cases hkind : Item.quantity? c with
  | some found => exact Or.inl (Or.inl (.letter (Or.inl (mem_numberLetters_iff.2 ⟨_, _, hkind⟩))))
  | none => exact Or.inr rfl

/-- After a percent sign there is a specifier, or the scan finds it invalid. -/
theorem awaits_percent : Awaits .percent IsSpecifier := by
  have hpadded : ∀ flag ∈ ['-', '_', '0'], ∀ spec, (∃ c ∈ numberLetters, spec = [c]) →
      IsSpecifier (flag :: spec) := by
    rintro flag hflag _ ⟨c, hc, rfl⟩
    exact Or.inl (.padded hflag hc)
  have hdigits : ∀ digits ∈ ['3', '6', '9'], ∀ spec, spec = ['f'] →
      IsSpecifier (digits :: spec) := by
    rintro digits hdigits _ rfl
    exact Or.inl (.fractionDigits hdigits)
  refine awaits_of_step (by simp) fun c => ?_
  unfold Scan.step
  split
  any_goals cases ‹Scan.percent = _›
  · exact Or.inr (Or.inr ⟨_, awaits_padded _, hpadded '-' (by simp)⟩)
  · exact Or.inr (Or.inr ⟨_, awaits_padded _, hpadded '_' (by simp)⟩)
  · exact Or.inr (Or.inr ⟨_, awaits_padded _, hpadded '0' (by simp)⟩)
  · exact Or.inr (Or.inr ⟨_, awaits_alternate, fun spec hspec => Or.inr (hspec ▸ by decide)⟩)
  · exact Or.inr (Or.inr ⟨_, awaits_colons, fun spec hspec => Or.inr hspec⟩)
  · exact Or.inr (Or.inr ⟨_, awaits_dot, fun spec hspec => Or.inl hspec⟩)
  · exact Or.inr (Or.inr ⟨_, awaits_digits 3, hdigits '3' (by simp)⟩)
  · exact Or.inr (Or.inr ⟨_, awaits_digits 6, hdigits '6' (by simp)⟩)
  · exact Or.inr (Or.inr ⟨_, awaits_digits 9, hdigits '9' (by simp)⟩)
  · refine (isSpecifier_or_eq_invalid _).imp_right fun hinvalid => Or.inl ?_
    rw [hinvalid]
    exact List.mem_singleton.2 rfl

/-- After a percent sign that no specifier follows the scan finds an invalid one. -/
theorem invalid_mem_of_not_prefix {rest : List Char}
    (h : ∀ spec, IsSpecifier spec → ¬ spec <+: rest) : .invalid ∈ itemsFrom .percent rest :=
  (awaits_percent rest).resolve_left fun ⟨spec, hspec, hprefix⟩ => h spec hspec hprefix

/-! ### What patterns are scanned to -/

theorem itemsFrom_percent (cs : List Char) :
    itemsFrom .text ('%' :: cs) = itemsFrom .percent cs :=
  itemsFrom_cons _ _ _

/-- Where a piece ends the scan is outside specifiers, and what follows is scanned by itself. -/
theorem IsPiece.exists_items {piece : List Char} (h : IsPiece piece) :
    ∃ items : List Item, ∀ cs, itemsFrom .text (piece ++ cs) = items ++ itemsFrom .text cs := by
  cases h with
  | char hc => exact ⟨[.ofChar _], fun cs => itemsFrom_text hc cs⟩
  | specifier h =>
      rcases h with hlocal | hzone
      · obtain ⟨items, -, hscan⟩ := hlocal.exists_items
        exact ⟨items, fun cs => (itemsFrom_percent _).trans (hscan cs)⟩
      · obtain ⟨item, -, hscan⟩ := exists_item_of_mem_zoneSpecifiers hzone
        exact ⟨[item], fun cs => (itemsFrom_percent _).trans (hscan cs)⟩

theorem mem_itemsFrom_of_pieces {front : List (List Char)} (h : ∀ piece ∈ front, IsPiece piece)
    {cs : List Char} {item : Item} (hitem : item ∈ itemsFrom .text cs) :
    item ∈ itemsFrom .text (front.flatten ++ cs) := by
  induction front with
  | nil => exact hitem
  | cons piece front ih =>
      obtain ⟨items, hscan⟩ := (h piece List.mem_cons_self).exists_items
      rw [List.flatten_cons, List.append_assoc, hscan]
      exact List.mem_append_right _ (ih fun p hp => h p (List.mem_cons_of_mem _ hp))

theorem isWritable_ofChar (c : Char) : (Item.ofChar c).isWritable = true := by
  cases hc : isBlank c <;> simp [Item.ofChar, Item.isWritable, hc]

/-- Unless the writing stops at once, a pattern starts with a piece that can be written. -/
theorem stops_or_exists_piece (c : Char) (cs : List Char) :
    (c = '%' ∧ Stops cs) ∨ ∃ piece tail items, IsPiece piece ∧ c :: cs = piece ++ tail ∧
      tail.length < (c :: cs).length ∧ (∀ item ∈ items, Item.isWritable item = true) ∧
      itemsFrom .text (c :: cs) = items ++ itemsFrom .text tail := by
  by_cases hc : c = '%'
  · subst hc
    by_cases hstops : Stops cs
    · exact Or.inl ⟨rfl, hstops⟩
    · simp only [Stops, not_or, not_forall, not_not, not_exists, not_and] at hstops
      obtain ⟨⟨spec, hspec, tail, rfl⟩, hzone⟩ := hstops
      have hlocal : LocalSpecifier spec :=
        hspec.resolve_right fun hmem => hzone spec hmem (List.prefix_append _ _)
      obtain ⟨items, hwritable, hscan⟩ := hlocal.exists_items
      refine Or.inr ⟨'%' :: spec, tail, items, .specifier hspec, rfl, ?_, hwritable, ?_⟩
      · simp only [List.length_cons, List.length_append]
        omega
      · rw [itemsFrom_percent, hscan]
  · exact Or.inr ⟨[c], cs, [.ofChar c], .char hc, rfl, Nat.lt_succ_self _,
      by simp [isWritable_ofChar], itemsFrom_text hc cs⟩

/-- **A pattern is unwritable exactly if one of its items is.** -/
theorem unwritable_iff {cs : List Char} :
    Unwritable cs ↔ ∃ item ∈ itemsFrom .text cs, item.isWritable = false := by
  constructor
  · rintro ⟨front, rest, hfront, rfl, hstops⟩
    have hfound : ∃ item ∈ itemsFrom .percent rest, item.isWritable = false := by
      rcases hstops with hnone | ⟨spec, hspec, tail, rfl⟩
      · exact ⟨.invalid, invalid_mem_of_not_prefix hnone, rfl⟩
      · obtain ⟨item, hitem, hscan⟩ := exists_item_of_mem_zoneSpecifiers hspec
        rw [hscan]
        exact ⟨item, List.mem_cons_self, hitem⟩
    obtain ⟨item, hmem, hitem⟩ := hfound
    rw [← itemsFrom_percent] at hmem
    exact ⟨item, mem_itemsFrom_of_pieces hfront hmem, hitem⟩
  · intro h
    -- Pieces that can be written are taken off the front, until the writing stops.
    induction hlength : cs.length using Nat.strongRecOn generalizing cs with
    | _ n ih =>
      obtain ⟨item, hmem, hitem⟩ := h
      cases cs with
      | nil => cases hmem
      | cons c cs =>
          rcases stops_or_exists_piece c cs with ⟨rfl, hstops⟩ | hpiece
          · exact unwritable_of_stops hstops
          · obtain ⟨piece, tail, items, hpiece, hcs, hshorter, hwritable, hscan⟩ := hpiece
            rw [hscan] at hmem
            rcases List.mem_append.1 hmem with hmem | hmem
            · rw [hwritable item hmem] at hitem
              cases hitem
            · rw [hcs]
              exact (ih _ (hlength ▸ hshorter) ⟨item, hmem, hitem⟩ rfl).append hpiece

theorem writeItems?_eq_none_iff {t : Timestamp} {items : List Item} :
    writeItems? t items = none ↔ ∃ item ∈ items, item.isWritable = false := by
  constructor
  · intro h
    by_contra hnone
    simp only [not_exists, not_and, Bool.not_eq_false] at hnone
    rw [writeItems?_eq_written hnone] at h
    cases h
  · rintro ⟨item, hmem, hitem⟩
    induction items with
    | nil => cases hmem
    | cons first items ih =>
        rw [writeItems?]
        rcases List.mem_cons.1 hmem with rfl | hmem
        · have hnone : item.write? t = none := by
            rw [← Option.not_isSome_iff_eq_none, item.isSome_write? t, hitem]
            decide
          rw [hnone]
          rfl
        · rw [ih hmem]
          cases first.write? t <;> rfl

/-- **A pattern has a text for a timestamp unless it is unwritable**, whichever timestamp it is. -/
theorem write?_eq_none_iff {pattern : String} {t : Timestamp} :
    write? pattern t = none ↔ Unwritable pattern.toList := by
  rw [write?, Option.map_eq_none_iff, writeItems?_eq_none_iff, unwritable_iff]
  rfl

/-- The application's own pattern can be written. -/
theorem writable_application : ¬ Unwritable applicationPattern.toList := by
  rw [unwritable_iff]
  decide

example : ¬ Unwritable "100%% %3f%.f %_H".toList ∧ Unwritable "%_F".toList ∧
    Unwritable "%.4f".toList ∧ Unwritable "%::".toList ∧ Unwritable "%#:z".toList := by
  simp only [unwritable_iff]
  decide

/-- A valid timestamp has a name for its month and one for its weekday. -/
theorem exists_names {t : Timestamp} (h : t.Valid) :
    (∃ name, monthNames[t.date.month - 1]? = some name) ∧
      ∃ name, weekdayNames[t.date.daysSinceMonday]? = some name := by
  have hmonth : t.date.month - 1 < monthNames.length := by
    have hlast : t.date.month ≤ 12 := h.1.2.2.2.1
    show t.date.month - 1 < 12
    omega
  have hweekday : t.date.daysSinceMonday < weekdayNames.length := t.date.daysSinceMonday_lt
  exact ⟨⟨_, List.getElem?_eq_getElem hmonth⟩, ⟨_, List.getElem?_eq_getElem hweekday⟩⟩

end Pattern

namespace Formats

/-- **Whether a timestamp can be written is decided by the pattern alone.** There is no text exactly
if the primary pattern, which is the first one for timestamps, has a specifier that is none or that
asks for a zone. It is therefore the same for any two timestamps, at the ends of the calendar and in
leap seconds too, and without patterns for timestamps there always is a text. No name that a pattern
may ask for is ever lacking. -/
theorem write_decided_by_pattern (formats : Formats) :
    (∀ t : Timestamp, formats.write? t = none ↔ Pattern.Unwritable formats.primary.toList) ∧
    (∀ t u : Timestamp, formats.write? t = none ↔ formats.write? u = none) ∧
    (∀ pattern patterns, formats.dateTime = pattern :: patterns → formats.primary = pattern) ∧
    (formats.dateTime = [] →
      formats.primary = "%Y-%m-%d %H:%M:%S" ∧ ∀ t, ∃ text, formats.write? t = some text) ∧
    (∀ t : Timestamp, t.Valid → (∃ name, monthNames[t.date.month - 1]? = some name) ∧
      ∃ name, weekdayNames[t.date.daysSinceMonday]? = some name) := by
  have hlaw : ∀ t : Timestamp,
      formats.write? t = none ↔ Pattern.Unwritable formats.primary.toList :=
    fun _ => Pattern.write?_eq_none_iff
  refine ⟨hlaw, fun t u => (hlaw t).trans (hlaw u).symm, ?_, fun hnone => ?_,
    fun _ => Pattern.exists_names⟩
  · intro pattern patterns h
    rw [primary, h, List.headD_cons]
  · have hprimary : formats.primary = applicationPattern := by
      rw [primary, hnone, List.headD_nil]
    refine ⟨hprimary, fun t => Option.ne_none_iff_exists'.1 fun hlacks => ?_⟩
    rw [hlaw, hprimary] at hlacks
    exact Pattern.writable_application hlacks

/-- A padding flag before an abbreviation stops the writing of the last moment of the calendar, a
leap second, and with it that of every other. Without patterns for timestamps, those for dates and
times do not stop it. -/
theorem write_decided_by_pattern_lastMoment :
    let last : Timestamp := ⟨⟨262142, 12, 31⟩, ⟨86399, 1999999999⟩⟩
    let flagged : Formats := ⟨["%F %-T", "%F %T"], [], []⟩
    let bare : Formats := ⟨[], ["%Z"], ["%"]⟩
    (flagged.primary = "%F %-T" ∧ flagged.write? last = none ∧
      Pattern.Unwritable "%F %-T".toList ∧ flagged.write? Timestamp.first = none) ∧
    (bare.dateTime = [] ∧ bare.primary = "%Y-%m-%d %H:%M:%S" ∧
      ¬ Pattern.Unwritable bare.primary.toList ∧
      bare.write? last = some "+262142-12-31 23:59:60") ∧
    (last.Valid ∧ ∃ name, weekdayNames[last.date.daysSinceMonday]? = some name) := by
  intro last flagged bare
  obtain ⟨hlaw, hsame, hfirst, -, hnames⟩ := write_decided_by_pattern flagged
  obtain ⟨hlawBare, -, -, hbare, -⟩ := write_decided_by_pattern bare
  have hnone : flagged.write? last = none := by decide +kernel
  have htext : bare.write? last = some "+262142-12-31 23:59:60" := by decide +kernel
  have hvalid : last.Valid := by decide
  refine ⟨⟨hfirst _ _ rfl, hnone, (hlaw last).1 hnone, (hsame last _).1 hnone⟩,
    ⟨rfl, (hbare rfl).1, fun hlacks => ?_, htext⟩, hvalid, (hnames last hvalid).2⟩
  rw [(hlawBare last).2 hlacks] at htext
  cases htext

end Formats

end QueryWindow
