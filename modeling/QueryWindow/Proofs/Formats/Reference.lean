import QueryWindow.Proofs.Pattern.Dates
import QueryWindow.Proofs.Pattern.Reads

/-!
# QueryWindow.Proofs.Formats.Reference

**What the reference lends to a text: a date, and only to a bare time.** The patterns for timestamps
and dates are tried without the reference (`Formats.dated?`), and so are those for times
(`Formats.timed?`). The date of the reference goes before a time of day only where the former found
nothing (`Formats.parse_of_not_blank`). What a text comes to is therefore settled before a reference
is known (`Formats.parse_cases`), and two references can differ in the date of a bare time only.

A pattern for a time finds nothing in an empty text (`Pattern.time?_nil`): no item takes an hour
from nothing. A text that is accepted as a time is therefore no blank one.
-/

namespace QueryWindow

variable {cs : List Char} {reference : Timestamp}

/-! ### Empty texts -/

theorem readNatural_nil {least n : Nat} {limit : Option Nat} {rest : List Char}
    (h : readNatural least limit [] = .ok (n, rest)) : rest = [] := by
  unfold readNatural at h
  dsimp only at h
  split at h
  · cases h
  · split at h
    · cases h
    · cases h
      exact List.drop_nil

theorem Quantity.readValue_nil (kind : Quantity) : kind.readValue [] = .error .tooShort := by
  cases kind <;> rfl

theorem Name.find?_monthNames_nil (long : Bool) : find? monthNames long [] = none := by
  cases long <;> rfl

theorem Name.find?_weekdayNames_nil (long : Bool) : find? weekdayNames long [] = none := by
  cases long <;> rfl

/-- An item that an empty text satisfies does not tell the half of the day. -/
theorem Item.read_nil {item : Item} {fields result : Fields} {rest : List Char}
    (h : item.read fields [] = .ok (result, rest)) : result .half = fields .half ∧ rest = [] := by
  cases item with
  | literal c => cases h
  | blank c => cases h; exact ⟨rfl, rfl⟩
  | number kind padding =>
      obtain ⟨found, hfound, -⟩ := bind_eq_ok.1 h
      rw [Quantity.readValue_nil] at hfound
      cases hfound
  | monthName long =>
      obtain ⟨found, hfound, -⟩ := bind_eq_ok.1 h
      rw [readName, Name.find?_monthNames_nil] at hfound
      cases hfound
  | weekdayName long =>
      obtain ⟨found, hfound, -⟩ := bind_eq_ok.1 h
      rw [readName, Name.find?_weekdayNames_nil] at hfound
      cases hfound
  | half capitals => cases h
  | fraction => cases h; exact ⟨rfl, rfl⟩
  | fractionAfterDot digits => cases h; exact ⟨rfl, rfl⟩
  | fractionDigits digits =>
      -- A fraction of no digits can be read here; it is not about the hour.
      obtain ⟨⟨n, tail⟩, hfound, hstore⟩ := bind_eq_ok.1 h
      obtain ⟨hset, rfl⟩ := store_eq_ok_iff.1 hstore
      obtain ⟨⟨m, left⟩, hnatural, hleft⟩ := exceptMap_eq_ok.1 hfound
      obtain rfl := readNatural_nil hnatural
      cases hleft
      rw [Fields.setAll_singleton] at hset
      exact ⟨Fields.get_of_set_of_ne hset (by decide), rfl⟩
  | offset lenient => cases lenient <;> cases h
  | zoneName => cases h; exact ⟨rfl, rfl⟩
  | zonedTimestamp => cases h
  | invalid => cases h

theorem Pattern.readItems_nil {items : List Item} {fields result : Fields} {rest : List Char}
    (h : readItems items fields [] = .ok (result, rest)) : result .half = fields .half := by
  induction items generalizing fields with
  | nil => cases h; rfl
  | cons item items ih =>
      obtain ⟨⟨next, tail⟩, hitem, hitems⟩ := bind_eq_ok.1 h
      obtain ⟨hhalf, rfl⟩ := Item.read_nil hitem
      exact (ih hitems).trans hhalf

theorem Pattern.time?_nil (pattern : String) : time? pattern [] = none := by
  rw [Option.eq_none_iff_forall_ne_some]
  intro time hfound
  obtain ⟨fields, hread, htime⟩ := exceptBind_eq_ok.1 (toOption_eq_some.1 hfound)
  obtain ⟨⟨result, rest⟩, hitems, hend⟩ := bind_eq_ok.1 hread
  have hhalf : fields .half = none := by
    dsimp only at hend
    split at hend
    · cases hend
      exact Pattern.readItems_nil hitems
    · cases hend
  unfold Fields.time at htime
  rw [hhalf] at htime
  cases htime

/-! ### Dates that are told, and times that are -/

namespace Formats

variable {formats : Formats}

/-- The timestamp by the first pattern for a timestamp or a date that fits. -/
def dated? (formats : Formats) (cs : List Char) : Option Timestamp :=
  (formats.dateTime.findSome? fun pattern => Pattern.timestamp? pattern cs).or
    ((formats.date.findSome? fun pattern => Pattern.date? pattern cs).map fun date =>
      ⟨date, Time.midnight⟩)

/-- The time of day by the first pattern for a time that fits. -/
def timed? (formats : Formats) (cs : List Char) : Option Time :=
  formats.time.findSome? fun pattern => Pattern.time? pattern cs

/-- Some pattern for a timestamp or a date accepts the text. -/
def TellsDate (formats : Formats) (cs : List Char) : Prop :=
  (∃ pattern ∈ formats.dateTime, Aim.timestamp.Accepts pattern cs) ∨
    ∃ pattern ∈ formats.date, Aim.date.Accepts pattern cs

/-- Some pattern for a time accepts the text. -/
def TellsTime (formats : Formats) (cs : List Char) : Prop :=
  ∃ pattern ∈ formats.time, Aim.time.Accepts pattern cs

theorem isSome_dated?_iff : (formats.dated? cs).isSome = true ↔ formats.TellsDate cs := by
  rw [dated?, Option.isSome_or, Bool.or_eq_true, Option.isSome_map, List.findSome?_isSome_iff,
    List.findSome?_isSome_iff]
  rfl

theorem isSome_timed?_iff : (formats.timed? cs).isSome = true ↔ formats.TellsTime cs :=
  List.findSome?_isSome_iff

theorem dated?_eq_none_iff : formats.dated? cs = none ↔ ¬ formats.TellsDate cs := by
  rw [← isSome_dated?_iff, Option.not_isSome_iff_eq_none]

theorem timed?_eq_none_iff : formats.timed? cs = none ↔ ¬ formats.TellsTime cs := by
  rw [← isSome_timed?_iff, Option.not_isSome_iff_eq_none]

theorem not_tellsTime_nil (formats : Formats) : ¬ formats.TellsTime [] := by
  intro h
  obtain ⟨pattern, -, haccepts⟩ := h
  rw [Aim.Accepts, Pattern.time?_nil] at haccepts
  cases haccepts

/-- **Only a bare time needs the reference.** -/
theorem find?_eq_or (formats : Formats) (cs : List Char) (reference : Timestamp) :
    formats.find? cs reference =
      (formats.dated? cs).or ((formats.timed? cs).map fun time => ⟨reference.date, time⟩) := by
  rw [find?, dated?, timed?, Option.or_assoc]
  simp only [Option.orElse_eq_orElse, Option.orElse_eq_or]

/-- What a text that is not blank comes to. -/
theorem parse_of_not_blank (formats : Formats) {content : String}
    (hb : (trim content.toList).isEmpty = false) (reference : Timestamp) :
    formats.parse content reference =
      match formats.dated? (trim content.toList), formats.timed? (trim content.toList) with
      | some t, _ => .ok t
      | none, some time => .ok ⟨reference.date, time⟩
      | none, none => .error (.unrecognised (String.ofList (trim content.toList))) := by
  unfold parse
  dsimp only
  rw [hb, find?_eq_or]
  cases formats.dated? (trim content.toList) with
  | some t => rfl
  | none => cases formats.timed? (trim content.toList) <;> rfl

/-! ### Two references -/

/-- **What a text comes to is settled without the reference**: an error, a timestamp, or a time of
day that waits for a date. -/
theorem parse_cases (formats : Formats) (content : String) :
    (∃ error, ∀ reference, formats.parse content reference = .error error) ∨
    (∃ t, formats.TellsDate (trim content.toList) ∧
      ∀ reference, formats.parse content reference = .ok t) ∨
    ∃ time, formats.TellsTime (trim content.toList) ∧ ¬ formats.TellsDate (trim content.toList) ∧
      ∀ reference, formats.parse content reference = .ok ⟨reference.date, time⟩ := by
  cases hb : (trim content.toList).isEmpty with
  | true =>
      refine Or.inl ⟨.empty, fun reference => ?_⟩
      unfold parse
      exact if_pos hb
  | false =>
      have hparse := formats.parse_of_not_blank hb
      cases hdated : formats.dated? (trim content.toList) with
      | some t =>
          rw [hdated] at hparse
          have htells := isSome_dated?_iff.1 (Option.isSome_of_eq_some hdated)
          exact Or.inr (Or.inl ⟨t, htells, hparse⟩)
      | none =>
          cases htimed : formats.timed? (trim content.toList) with
          | some time =>
              rw [hdated, htimed] at hparse
              have htells := isSome_timed?_iff.1 (Option.isSome_of_eq_some htimed)
              exact Or.inr (Or.inr ⟨time, htells, dated?_eq_none_iff.1 hdated, hparse⟩)
          | none =>
              rw [hdated, htimed] at hparse
              exact Or.inl ⟨_, hparse⟩

/-- Only a bare time, and the patterns for it, can make two references lead to two timestamps. -/
theorem parse_eq_or_tellsTime (formats : Formats) (content : String) (here there : Timestamp) :
    formats.parse content here = formats.parse content there ∨
      formats.TellsTime (trim content.toList) ∧ ¬ formats.TellsDate (trim content.toList) := by
  rcases formats.parse_cases content with ⟨error, h⟩ | ⟨t, -, h⟩ | ⟨time, htime, hdate, -⟩
  · exact Or.inl ((h here).trans (h there).symm)
  · exact Or.inl ((h here).trans (h there).symm)
  · exact Or.inr ⟨htime, hdate⟩

theorem parse_eq_of_time_eq_nil {formats : Formats} (h : formats.time = []) (content : String)
    (here there : Timestamp) : formats.parse content here = formats.parse content there := by
  rcases formats.parse_eq_or_tellsTime content here there with heq | ⟨htime, -⟩
  · exact heq
  · obtain ⟨pattern, hmem, -⟩ := htime
    rw [h] at hmem
    cases hmem

/-- **The reference lends its date and nothing else.** By two references, a text is refused with one
error, or it tells a date and means one timestamp, or it is a bare time and means one time of day on
the date of each. It means the same if the dates are the same, if some pattern for a timestamp or a
date accepts it, and if there are no patterns for times, as in a strict format. -/
theorem parse_reference (formats : Formats) (content : String) (here there : Timestamp) :
    ((∃ error, formats.parse content here = .error error ∧
        formats.parse content there = .error error) ∨
      (∃ t, formats.TellsDate (trim content.toList) ∧
        formats.parse content here = .ok t ∧ formats.parse content there = .ok t) ∨
      ∃ time, formats.TellsTime (trim content.toList) ∧
        ¬ formats.TellsDate (trim content.toList) ∧
        formats.parse content here = .ok ⟨here.date, time⟩ ∧
        formats.parse content there = .ok ⟨there.date, time⟩) ∧
    (here.date = there.date → formats.parse content here = formats.parse content there) ∧
    (formats.TellsDate (trim content.toList) →
      formats.parse content here = formats.parse content there) ∧
    (formats.time = [] → formats.parse content here = formats.parse content there) ∧
    (∀ pattern, (strict pattern).parse content here = (strict pattern).parse content there) := by
  refine ⟨?_, fun hdate => ?_, fun htells => ?_, fun hnone => ?_, fun pattern => ?_⟩
  · rcases formats.parse_cases content with
      ⟨error, h⟩ | ⟨t, hdate, h⟩ | ⟨time, htime, hdate, h⟩
    · exact Or.inl ⟨error, h here, h there⟩
    · exact Or.inr (Or.inl ⟨t, hdate, h here, h there⟩)
    · exact Or.inr (Or.inr ⟨time, htime, hdate, h here, h there⟩)
  · rcases formats.parse_cases content with ⟨error, h⟩ | ⟨t, -, h⟩ | ⟨time, -, -, h⟩
    · rw [h, h]
    · rw [h, h]
    · rw [h, h, hdate]
  · rcases formats.parse_eq_or_tellsTime content here there with heq | ⟨-, hnot⟩
    · exact heq
    · exact absurd htells hnot
  · exact parse_eq_of_time_eq_nil hnone content here there
  · exact parse_eq_of_time_eq_nil rfl content here there

/-- On two days a text of an hour and minute means that time on each, and the leap second of a dated
text is the same. At another time of the same day nothing changes. -/
theorem parse_reference_bareTime :
    let here : Timestamp := ⟨Date.first, ⟨0, 0⟩⟩
    let later : Timestamp := ⟨Date.first, ⟨86399, 1999999999⟩⟩
    let there : Timestamp := ⟨Date.last, ⟨43200, 0⟩⟩
    let dated := "2016-12-31 23:59:60"
    (∃ time, standard.parse "9:30" here = .ok ⟨here.date, time⟩ ∧
      standard.parse "9:30" there = .ok ⟨there.date, time⟩) ∧
    (here.date = later.date ∧ standard.parse "9:30" here = standard.parse "9:30" later) ∧
    (standard.TellsDate (trim dated.toList) ∧
      standard.parse dated here = standard.parse dated there) ∧
    ((strict applicationPattern).time = [] ∧
      (strict applicationPattern).parse "9:30" here =
        (strict applicationPattern).parse "9:30" there) := by
  intro here later there dated
  have htells : standard.TellsDate (trim dated.toList) := isSome_dated?_iff.1 (by decide +kernel)
  have hnine : standard.parse "9:30" here = .ok ⟨here.date, ⟨34200, 0⟩⟩ := by decide +kernel
  refine ⟨?_, ⟨rfl, (parse_reference standard "9:30" here later).2.1 rfl⟩,
    ⟨htells, (parse_reference standard dated here there).2.2.1 htells⟩,
    rfl, (parse_reference (strict applicationPattern) "9:30" here there).2.2.2.1 rfl⟩
  rcases (parse_reference standard "9:30" here there).1 with
    ⟨error, h, -⟩ | ⟨t, htells', -⟩ | ⟨time, -, -, h⟩
  · rw [hnine] at h
    cases h
  · exact absurd htells' (dated?_eq_none_iff.1 (by decide +kernel))
  · exact ⟨time, h⟩

end Formats

end QueryWindow
