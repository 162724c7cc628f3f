import QueryWindow.Proofs.Interchange.Ends

/-!
# QueryWindow.Proofs.Interchange.Settings

**Settings that come as JSON are laid over the standard ones** (`decode_incomplete`). Of the fields
by which settings are written any may be left out, at either level, and other fields may be added;
what is read are the settings with standard values for what was left out, and for nothing else. An
empty list of patterns that is there stays empty, while standard formats as a whole take the place
of formats that are not there. Both levels may also be arrays that stop early.
-/

namespace QueryWindow

variable {φ : Type}

/-! ### Formats -/

namespace Formats

variable {formats : Formats} {kept : String → Bool} {value : Json φ}

/-- The names of the fields of formats, in order. -/
def names : List String := ["date_time", "date", "time"]

/-- The members by which formats are written. -/
def members (formats : Formats) : List (JsonMember φ) :=
  [("date_time", patternsToJson formats.dateTime), ("date", patternsToJson formats.date),
    ("time", patternsToJson formats.time)]

/-- A value holds those fields of formats that are kept. -/
def HeldIn (formats : Formats) (kept : String → Bool) (value : Json φ) : Prop :=
  value.Holds names (formats.members.filter fun member => kept member.1)

/-- Formats with the standard lists for those that are not kept. -/
def restrict (formats : Formats) (kept : String → Bool) : Formats :=
  ⟨if kept "date_time" then formats.dateTime else standardDateTimePatterns,
    if kept "date" then formats.date else standardDatePatterns,
    if kept "time" then formats.time else standardTimePatterns⟩

theorem decodeList_patternsToJson (patterns : List String) :
    Json.decodeList Json.decodeText (patternsToJson patterns : Json φ) = .ok patterns := by
  have hitems : Json.decodeItems Json.decodeText (patterns.map (@Json.text φ)) = .ok patterns := by
    induction patterns with
    | nil => rfl
    | cons pattern patterns ih =>
        rw [List.map_cons, Json.decodeItems, ih]
        rfl
  exact bind_eq_ok.2 ⟨_, hitems, rfl⟩

/-- The formats read so far, with the list of a name taken from others. -/
def supply (formats : Formats) (name : String) (f : Formats) : Formats :=
  ⟨if name = "date_time" then formats.dateTime else f.dateTime,
    if name = "date" then formats.date else f.date, if name = "time" then formats.time else f.time⟩

theorem supply_comm (formats : Formats) (first second : String) (f : Formats) :
    formats.supply second (formats.supply first f) =
      formats.supply first (formats.supply second f) := by
  simp only [supply, mk.injEq]
  refine ⟨?_, ?_, ?_⟩ <;> split <;> split <;> rfl

theorem takes_of_mem_members (formats : Formats) :
    ∀ member ∈ (formats.members : List (JsonMember φ)), record.Takes formats.supply member := by
  have hlist := @decodeList_patternsToJson φ
  intro member hmember
  simp only [members, List.mem_cons, List.not_mem_nil, or_false] at hmember
  rcases hmember with rfl | rfl | rfl
  · exact ⟨_, rfl, Slot.store_of (hlist formats.dateTime) "date_time" _⟩
  · exact ⟨_, rfl, Slot.store_of (hlist formats.date) "date" _⟩
  · exact ⟨_, rfl, Slot.store_of (hlist formats.time) "time" _⟩

/-- The lists that are kept take the place of the standard ones. -/
theorem foldl_members (formats : Formats) (kept : String → Bool) :
    ((formats.members : List (JsonMember φ)).filter fun member => kept member.1).foldl
      (fun f member => formats.supply member.1 f) standard = formats.restrict kept := by
  -- A member that is not kept leaves all lists as they are.
  rw [List.foldl_filter]
  unfold members restrict
  simp only [List.foldl_cons, List.foldl_nil]
  cases kept "date_time" <;> cases kept "date" <;> cases kept "time" <;> rfl

theorem nodup_names : (record : Record φ Formats).names.Nodup := by
  show names.Nodup
  decide

theorem nodup_members (formats : Formats) (kept : String → Bool) :
    (((formats.members : List (JsonMember φ)).filter fun member => kept member.1).map
      Prod.fst).Nodup := by
  have hall : ((formats.members : List (JsonMember φ)).map Prod.fst).Nodup :=
    @nodup_names φ
  exact hall.sublist (List.filter_sublist.map Prod.fst)

/-- Formats are read from any value that holds some of their fields. -/
theorem decode_of_heldIn (order : MemberOrder) (h : formats.HeldIn kept value) :
    decode order value = .ok (formats.restrict kept) := by
  have hread : record.read order standard value = _ :=
    record.read_of_holds nodup_names order standard h (.inl rfl)
      (fun member hmember => formats.takes_of_mem_members member (List.mem_of_mem_filter hmember))
      (formats.nodup_members kept) formats.supply_comm
  rwa [formats.foldl_members kept] at hread

/-- What formats are written as holds all of their fields. -/
theorem heldIn_toJson (formats : Formats) :
    formats.HeldIn (fun _ => true) (formats.toJson : Json φ) := by
  rw [HeldIn, List.filter_true]
  exact (Json.lists_ofMembers (by simp [members, names])).holds

end Formats

/-! ### Settings -/

namespace Lookback

theorem decode_toJson (lookback : Lookback) (order : MemberOrder) :
    decode order (lookback.toJson : Json φ) = .ok lookback := by
  have hlt : ((lookback.millis.toNat : Nat) : Int) < wordLimit :=
    Int.ofNat_lt.2 lookback.millis.toNat_lt
  have hword : Json.decodeWord (lookback.toJson : Json φ) = .ok lookback.millis := by
    rw [toJson, Json.decodeWord, if_neg (Int.not_lt.2 (Int.natCast_nonneg _)), if_pos hlt,
      Int.toNat_natCast, UInt64.ofNat_toNat]
  rw [decode, hword]
  rfl

end Lookback

namespace Settings

variable {settings : Settings} {kept : String → Bool} {value formats : Json φ}

/-- The members by which settings are written, with a value for the formats. -/
def members (settings : Settings) (formats : Json φ) : List (JsonMember φ) :=
  [("gap", settings.lookback.toJson), ("date_format", formats)]

/-- A value holds those fields of settings that are kept, and its formats those that are kept of
formats. -/
def HeldIn (settings : Settings) (kept : String → Bool) (value : Json φ) : Prop :=
  ∃ formats, (kept "date_format" = true → settings.formats.HeldIn kept formats) ∧
    value.Holds ["gap", "date_format"]
      ((settings.members formats).filter fun member => kept member.1)

/-- Settings with the standard values of those fields that are not kept. -/
def restrict (settings : Settings) (kept : String → Bool) : Settings :=
  ⟨if kept "gap" then settings.lookback else ⟨300000⟩,
    if kept "date_format" then settings.formats.restrict kept else .standard⟩

/-- The settings read so far, with the field of a name taken from others. -/
def supply (settings : Settings) (name : String) (s : Settings) : Settings :=
  ⟨if name = "gap" then settings.lookback else s.lookback,
    if name = "date_format" then settings.formats else s.formats⟩

theorem supply_comm (settings : Settings) (first second : String) (s : Settings) :
    settings.supply second (settings.supply first s) =
      settings.supply first (settings.supply second s) := by
  simp only [supply, mk.injEq]
  constructor <;> split <;> split <;> rfl

/-- Fields that are kept are taken in, the formats without the lists that are not kept. -/
theorem takes_of_mem_members (order : MemberOrder)
    (hformats : kept "date_format" = true → settings.formats.HeldIn kept formats) :
    ∀ member ∈ (settings.members formats).filter fun member => kept member.1,
      (record order).Takes (supply ⟨settings.lookback, settings.formats.restrict kept⟩) member := by
  intro member hmember
  obtain ⟨hmember, hkept⟩ := List.mem_filter.1 hmember
  rcases List.mem_cons.1 hmember with rfl | hmember
  · exact ⟨_, rfl, Slot.store_of (settings.lookback.decode_toJson order) "gap" _⟩
  · obtain rfl := List.mem_singleton.1 hmember
    exact ⟨_, rfl, Slot.store_of (Formats.decode_of_heldIn order (hformats hkept)) "date_format" _⟩

theorem foldl_members (settings : Settings) (kept : String → Bool) (formats : Json φ) :
    ((settings.members formats).filter fun member => kept member.1).foldl
      (fun s member => supply ⟨settings.lookback, settings.formats.restrict kept⟩ member.1 s)
      standard = settings.restrict kept := by
  rw [List.foldl_filter]
  unfold members restrict
  simp only [List.foldl_cons, List.foldl_nil]
  cases kept "gap" <;> cases kept "date_format" <;> rfl

theorem nodup_names (order : MemberOrder) : (record order : Record φ Settings).names.Nodup := by
  show ["gap", "date_format"].Nodup
  decide

theorem nodup_members (settings : Settings) (kept : String → Bool) (formats : Json φ) :
    (((settings.members formats).filter fun member => kept member.1).map Prod.fst).Nodup := by
  have hall : ((settings.members formats).map Prod.fst).Nodup :=
    @nodup_names φ .asWritten
  exact hall.sublist (List.filter_sublist.map Prod.fst)

/-- Settings are read from any value that holds some of their fields. -/
theorem decode_of_heldIn (order : MemberOrder) (h : settings.HeldIn kept value) :
    decode order value = .ok (settings.restrict kept) := by
  obtain ⟨formats, hformats, hvalue⟩ := h
  have hread : (record order).read order standard value = _ :=
    (record order).read_of_holds (nodup_names order) order standard hvalue (.inl rfl)
      (takes_of_mem_members order hformats) (settings.nodup_members kept formats) (supply_comm _)
  rwa [settings.foldl_members kept formats] at hread

/-- What settings are written as holds all of their fields. -/
theorem heldIn_toJson (settings : Settings) :
    settings.HeldIn (fun _ => true) (settings.toJson : Json φ) := by
  refine ⟨settings.formats.toJson, fun _ => settings.formats.heldIn_toJson, ?_⟩
  rw [List.filter_true]
  exact (Json.lists_ofMembers (by simp [members])).holds

theorem ofWords_toJson (settings : Settings) : (settings.toJson : Json Empty).OfWords := by
  have hpatterns : ∀ patterns : List String,
      (Formats.patternsToJson patterns : Json Empty).OfWords := by
    refine fun patterns => .array fun item hitem => ?_
    obtain ⟨pattern, -, rfl⟩ := List.mem_map.1 hitem
    exact .text pattern
  have hformats : (settings.formats.toJson : Json Empty).OfWords := by
    refine .object fun member hmember => ?_
    simp only [List.mem_cons, List.not_mem_nil, or_false] at hmember
    rcases hmember with rfl | rfl | rfl
    exacts [hpatterns _, hpatterns _, hpatterns _]
  have hlookback : (settings.lookback.toJson : Json Empty).OfWords := by
    have hlt : ((settings.lookback.millis.toNat : Nat) : Int) < wordLimit :=
      Int.ofNat_lt.2 settings.lookback.millis.toNat_lt
    exact .number ⟨by omega, hlt⟩
  refine .object fun member hmember => ?_
  simp only [List.mem_cons, List.not_mem_nil, or_false] at hmember
  rcases hmember with rfl | rfl
  exacts [hlookback, hformats]

theorem widen_toJson (settings : Settings) :
    (settings.toJson : Json Empty).widen = (settings.toJson : Json φ) := by
  have hpatterns : ∀ patterns : List String,
      Json.widenItems (patterns.map Json.text) = patterns.map (@Json.text φ) := by
    intro patterns
    induction patterns with
    | nil => rfl
    | cons pattern patterns ih => exact congrArg (Json.text pattern :: ·) ih
  simp only [toJson, Formats.toJson, Formats.patternsToJson, Lookback.toJson, Json.ofMembers,
    Json.ofItems, Json.widen, Json.widenMembers, hpatterns]

theorem ofJsonText_toText (settings : Settings) :
    ofJsonText decode settings.toJson.toText = .ok settings := by
  rw [ofJsonText_eq_decode decode settings.ofWords_toJson, widen_toJson]
  exact decode_of_heldIn .asWritten settings.heldIn_toJson

end Settings

/-! ### Texts and whole values -/

/-- **What is left out of settings, formats and requests is filled in, and what is added does not
count.** Settings and formats of which some fields are kept are read with standard values for the
others, whether they come as values or as texts, and all of them are read back if all are kept. A
request is read from the values of its ends, in whatever form they come. -/
theorem decode_incomplete (settings : Settings) (kept : String → Bool) :
    ((∀ value : Json Empty, settings.HeldIn kept value →
        ofJson Settings.decode value = .ok (settings.restrict kept)) ∧
      (∀ text value, JsonDocument.read text = ⟨value, false⟩ → settings.HeldIn kept value →
        ofJsonText Settings.decode text = .ok (settings.restrict kept)) ∧
      ofJson Settings.decode settings.toJson = .ok settings ∧
      ofJsonText Settings.decode settings.toJson.toText = .ok settings) ∧
    ((∀ value : Json Empty, settings.formats.HeldIn kept value →
        ofJson Formats.decode value = .ok (settings.formats.restrict kept)) ∧
      ∀ text value, JsonDocument.read text = ⟨value, false⟩ → settings.formats.HeldIn kept value →
        ofJsonText Formats.decode text = .ok (settings.formats.restrict kept)) ∧
    (∀ (start stop : Option (Json Empty)) (value : Json Empty),
      value.Holds ["from", "to"] (Request.given start stop) →
        ofJson Request.decode value = Request.ofValues start stop) ∧
    ∀ (start stop : Option (Json Fault)) (text : String) (value : Json Fault),
      JsonDocument.read text = ⟨value, false⟩ →
        (value.Lists ["from", "to"] (Request.given start stop) →
          ofJsonText Request.decode text = Request.ofValues start stop) ∧
        (value.Holds ["from", "to"] (Request.given start stop) →
          ∀ request, Request.ofValues start stop = .ok request →
            ofJsonText Request.decode text = .ok request) := by
  refine ⟨⟨?_, ?_, ?_, ?_⟩, ⟨?_, ?_⟩, ?_, ?_⟩
  · exact fun value h => Settings.decode_of_heldIn .byName h
  · intro text value htext h
    rw [ofJsonText_of_read _ htext]
    exact Settings.decode_of_heldIn .asWritten h
  · exact Settings.decode_of_heldIn .byName settings.heldIn_toJson
  · exact settings.ofJsonText_toText
  · exact fun value h => Formats.decode_of_heldIn .byName h
  · intro text value htext h
    rw [ofJsonText_of_read _ htext]
    exact Formats.decode_of_heldIn .asWritten h
  · exact fun start stop value h => Request.ofJson_of_holds h
  · intro start stop text value htext
    rw [ofJsonText_of_read _ htext]
    exact ⟨Request.decode_of_lists, fun h request => Request.decode_eq_ok_of_holds .asWritten h⟩

/-- Of settings whose first list is empty only this list is kept, in an array; the lookback and the
other lists are the standard ones. Of two ends that are no texts the first one is refused, whether
they come in an object or in an array. -/
theorem decode_incomplete_emptyList :
    let settings : Settings := ⟨⟨60000⟩, ⟨[], ["%d/%m/%Y"], ["%H"]⟩⟩
    let kept : String → Bool := fun name => name ∈ ["date_format", "date_time"]
    let overlay : Json Empty := .ofMembers [("zone", .text "UTC"),
      ("date_format", .ofItems [.ofItems []]), ("gaps", .null)]
    let short : Json Empty := .ofItems [.number (.integer 60000)]
    let object : Json Empty := .ofMembers [("to", .bool true), ("from", .number (.integer 1))]
    let array : Json Empty := .ofItems [.number (.integer 1), .bool true]
    settings.restrict kept = ⟨⟨300000⟩, ⟨[], ["%Y-%m-%d"], ["%H:%M:%S", "%H:%M"]⟩⟩ ∧
      ofJson Settings.decode overlay = .ok (settings.restrict kept) ∧
      ofJson Settings.decode short = .ok ⟨⟨60000⟩, .standard⟩ ∧
      ofJson Request.decode object = .error (.wrongShape (.number (.integer 1)) "a string") ∧
      ofJson Request.decode array = .error (.wrongShape (.number (.integer 1)) "a string") := by
  intro settings kept overlay short object array
  have hnothing : ∀ member : JsonMember Empty, member.2.faultInPassing? = none :=
    fun member => member.2.faultInPassing?_eq_none
  have hoverlay : settings.HeldIn kept overlay := by
    refine ⟨.ofItems [.ofItems []], fun _ => ?_, ?_⟩
    · exact ⟨[("date_time", .ofItems [])], .refl _, .array (by decide)⟩
    · exact Json.holds_ofMembers (fun member _ _ => hnothing member) (.refl _)
  have hgap : settings.HeldIn (fun name => name = "gap") short :=
    ⟨.null, nofun, [("gap", settings.lookback.toJson)], .refl _, .array (by decide)⟩
  have hobject : object.Holds ["from", "to"]
      (Request.given (some (.number (.integer 1))) (some (.bool true))) :=
    Json.holds_ofMembers (fun member _ _ => hnothing member) (.swap _ _ [])
  have harray : array.Holds ["from", "to"]
      (Request.given (some (.number (.integer 1))) (some (.bool true))) :=
    ⟨_, .refl _, .array (List.prefix_refl _)⟩
  obtain ⟨⟨hsettings, -⟩, -, hrequest, -⟩ := decode_incomplete settings kept
  exact ⟨by decide, hsettings overlay hoverlay, (decode_incomplete settings _).1.1 short hgap,
    hrequest _ _ object hobject, hrequest _ _ array harray⟩

end QueryWindow
