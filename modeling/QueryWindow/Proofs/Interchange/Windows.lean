import QueryWindow.Proofs.Interchange.Records
import QueryWindow.Proofs.Pattern.Stored

/-!
# QueryWindow.Proofs.Interchange.Windows

**The JSON form of a window loses nothing** (`Window.decode_serialized`): a window whose ends are
well-formed timestamps is read back from what it is written as, to the nanosecond and whether its
ends are in order or not. The object may have other fields as well, its members may come in either
order, and the two ends may be given as an array.
-/

namespace QueryWindow

variable {φ : Type}

theorem Timestamp.decode_toJson {t : Timestamp} (ht : t.Valid) (order : MemberOrder) :
    decode order (t.toJson : Json φ) = .ok t := by
  rw [toJson, decode, ofStoredText_storedText ht]
  rfl

namespace Window

variable {window : Window} {value : Json φ}

/-- The members by which a window is written. -/
def members (window : Window) : List (JsonMember φ) :=
  [("from", window.start.toJson), ("to", window.stop.toJson)]

theorem toJson_eq (window : Window) : (window.toJson : Json φ) = .ofMembers window.members := rfl

/-- The ends read so far, with that of a name taken from a window. -/
def supply (window : Window) (name : String) (ends : Option Timestamp × Option Timestamp) :
    Option Timestamp × Option Timestamp :=
  (if name = "from" then some window.start else ends.1,
    if name = "to" then some window.stop else ends.2)

theorem supply_comm (window : Window) (first second : String)
    (ends : Option Timestamp × Option Timestamp) :
    window.supply second (window.supply first ends) =
      window.supply first (window.supply second ends) := by
  refine Prod.ext ?_ ?_ <;> simp only [supply] <;> split <;> split <;> rfl

theorem takes_of_mem_members (h : window.Valid) (order : MemberOrder) :
    ∀ member ∈ (window.members : List (JsonMember φ)),
      (record order).Takes window.supply member := by
  intro member hmember
  rcases List.mem_cons.1 hmember with rfl | hmember
  · exact ⟨_, rfl, Slot.store_of (Timestamp.decode_toJson h.1 order) "from" _⟩
  · rw [List.mem_singleton.1 hmember]
    exact ⟨_, rfl, Slot.store_of (Timestamp.decode_toJson h.2 order) "to" _⟩

/-- A window is read from any value that holds what it is written as. -/
theorem decode_of_holds (h : window.Valid) (order : MemberOrder)
    (hvalue : value.Holds ["from", "to"] window.members) : decode order value = .ok window := by
  have hnodup : ["from", "to"].Nodup := by decide
  have hread : (record order).read order (none, none) value =
      .ok (some window.start, some window.stop) :=
    (record order).read_of_holds hnodup order (none, none) hvalue (.inr rfl)
      (takes_of_mem_members h order) hnodup window.supply_comm
  exact exceptBind_eq_ok.2 ⟨_, hread, rfl⟩

theorem holds_toJson (window : Window) :
    (window.toJson : Json φ).Holds ["from", "to"] window.members :=
  (Json.lists_ofMembers (by simp [members])).holds

theorem ofWords_toJson (window : Window) : (window.toJson : Json Empty).OfWords := by
  refine .object fun member hmember => ?_
  rcases List.mem_cons.1 hmember with rfl | hmember
  · exact .text _
  · rw [List.mem_singleton.1 hmember]
    exact .text _

/-- **A window is read back from its JSON form**, as a value and as a text, also if the object has
other fields, and if its ends are given as an array. -/
theorem decode_serialized (h : window.Valid) :
    (ofJson decode window.toJson = .ok window ∧
      ofJsonText decode window.toJson.toText = .ok window) ∧
    (∀ value : Json Empty, value.Holds ["from", "to"] window.members →
      ofJson decode value = .ok window) ∧
    ∀ (text : String) (value : Json Fault), JsonDocument.read text = ⟨value, false⟩ →
      value.Holds ["from", "to"] window.members → ofJsonText decode text = .ok window := by
  refine ⟨⟨decode_of_holds h .byName window.holds_toJson, ?_⟩, fun value hvalue =>
    decode_of_holds h .byName hvalue, fun text value htext hvalue => ?_⟩
  · rw [ofJsonText_eq_decode decode window.ofWords_toJson]
    exact decode_of_holds h .asWritten window.holds_toJson
  · rw [ofJsonText_of_read decode htext]
    exact decode_of_holds h .asWritten hvalue

/-- A window that ends long before it starts, in a leap second, is read from an object with other
fields and from an array. -/
theorem decode_serialized_reversed :
    let window : Window := ⟨⟨⟨12345, 1, 1⟩, ⟨0, 1000⟩⟩, ⟨⟨-44, 3, 15⟩, ⟨86399, 1500000000⟩⟩⟩
    let start : Json Empty := .text "+12345-01-01T00:00:00.000001"
    let stop : Json Empty := .text "-0044-03-15T23:59:60.500"
    let crowded : Json Empty := .ofMembers [("zone", .null), ("to", stop), ("zone", .ofItems []),
      ("from", start)]
    window.Valid ∧ ¬ window.start < window.stop ∧
      window.toJson = .ofMembers [("from", start), ("to", stop)] ∧
      ofJson decode crowded = .ok window ∧ ofJsonText decode crowded.toText = .ok window ∧
      ofJson decode (.ofItems [start, stop]) = .ok window := by
  intro window start stop crowded
  have hvalid : window.Valid := by decide
  have hstart : window.start.storedText = "+12345-01-01T00:00:00.000001" := by decide +kernel
  have hstop : window.stop.storedText = "-0044-03-15T23:59:60.500" := by decide +kernel
  have hmembers : ∀ ψ : Type, (window.members : List (JsonMember ψ)) =
      [("from", .text "+12345-01-01T00:00:00.000001"),
        ("to", .text "-0044-03-15T23:59:60.500")] := by
    intro ψ
    simp only [members, Timestamp.toJson, hstart, hstop]
  have hperm : ∀ ψ : Type, [("to", .text "-0044-03-15T23:59:60.500"),
      ("from", .text "+12345-01-01T00:00:00.000001")].Perm
        (window.members : List (JsonMember ψ)) := by
    intro ψ
    rw [hmembers]
    exact .swap _ _ []
  have hwords : crowded.OfWords := by
    refine .object fun member hmember => ?_
    simp only [List.mem_cons, List.not_mem_nil, or_false] at hmember
    rcases hmember with rfl | rfl | rfl | rfl
    exacts [.null, .text _, .array nofun, .text _]
  obtain ⟨-, hvalue, htext⟩ := decode_serialized hvalid
  refine ⟨hvalid, by decide, ?_, ?_, ?_, ?_⟩
  · rw [toJson_eq, hmembers]
  · exact hvalue crowded
      (Json.holds_ofMembers (fun member _ _ => member.2.faultInPassing?_eq_none) (hperm _))
  · refine htext _ _ (JsonDocument.read_toText hwords) (Json.holds_ofMembers ?_ (hperm _))
    decide
  · exact hvalue _ ⟨_, .refl _, hmembers _ ▸ .array (by decide)⟩

end Window

end QueryWindow
