import QueryWindow.Proofs.Interchange.Records
import QueryWindow.Proofs.Outcome

/-!
# QueryWindow.Proofs.Interchange.Ends

**What a request is read from, whatever values its ends are given.** A missing end and one that is
null are no end, a text is one, and every other value is refused (`Endpoint.ofValue?`). The end that
the request starts from counts first, so that of two values that are both refused the refusal is
that of the first (`Request.ofValues`).

An object and an array that give the same two values are therefore read alike, with the same refusal
if there is one (`Request.decode_of_lists`). This is so for all objects that are values, since their
members are visited by name (`Request.ofJson_of_holds`), and for texts if the members are in order;
if they are not, the result is still the same, though a refusal may be that of the other end
(`Request.decode_eq_ok_of_holds`).
-/

namespace QueryWindow

variable {φ : Type}

/-- The end of a request that is given by a value, or by none. -/
def Endpoint.ofValue? : Option (Json φ) → Decoded φ (Option Endpoint)
  | none | some .null => .ok none
  | some (.text content) => .ok (some (.text content))
  | some value => value.refuse "a string"

theorem Endpoint.decodeOption_decode (order : MemberOrder) (value : Json φ) :
    Json.decodeOption (decode order) value = ofValue? (some value) := by
  cases value <;> rfl

namespace Request

variable {start stop : Option (Json φ)} {value : Json φ}

/-- The request whose ends are given by values, or by none. -/
def ofValues (start stop : Option (Json φ)) : Decoded φ Request := do
  let start ← Endpoint.ofValue? start
  let stop ← Endpoint.ofValue? stop
  return ⟨start, stop⟩

/-- The members that give the ends of a request. -/
def given (start stop : Option (Json φ)) : List (JsonMember φ) :=
  (start.toList.map fun value => ("from", value)) ++ stop.toList.map fun value => ("to", value)

theorem pairwise_given (start stop : Option (Json φ)) :
    (given start stop).Pairwise fun a b => a.1 ≤ b.1 := by
  have hnames : "from" ≤ "to" := by decide
  cases start <;> cases stop <;> simp [given, hnames]

theorem nodup_given (start stop : Option (Json φ)) :
    ((given start stop).map Prod.fst).Nodup := by
  cases start <;> cases stop <;> simp [given]

theorem nodup_names (order : MemberOrder) : (record order : Record φ Request).names.Nodup := by
  show ["from", "to"].Nodup
  decide

/-- A member that gives the start is read before the others. -/
theorem readMembers_from (order : MemberOrder) (value : Json φ) (members : List (JsonMember φ)) :
    (record order).readMembers none [] (("from", value) :: members) .empty =
      Endpoint.ofValue? (some value) >>= fun start =>
        (record order).readMembers none ["from"] members ⟨start, none⟩ := by
  rw [Record.readMembers_cons rfl List.not_mem_nil]
  show (Json.decodeOption (Endpoint.decode order) value).map _ >>= _ = _
  rw [Endpoint.decodeOption_decode]
  cases Endpoint.ofValue? (some value) <;> rfl

/-- A member that gives the stop is read last. -/
theorem readMembers_to {seen : List String} (hseen : "to" ∉ seen) (order : MemberOrder)
    (value : Json φ) (start : Option Endpoint) :
    (record order).readMembers none seen [("to", value)] ⟨start, none⟩ =
      Endpoint.ofValue? (some value) >>= fun stop => .ok ⟨start, stop⟩ := by
  rw [Record.readMembers_cons rfl hseen]
  show (Json.decodeOption (Endpoint.decode order) value).map _ >>= _ = _
  rw [Endpoint.decodeOption_decode]
  cases Endpoint.ofValue? (some value) <;> rfl

/-- Reading the members is reading the values of the ends one after the other. -/
theorem readMembers_given (order : MemberOrder) (start stop : Option (Json φ)) :
    (record order).readMembers none [] (given start stop) .empty = ofValues start stop := by
  cases start with
  | none =>
      cases stop with
      | none => rfl
      | some stop => exact readMembers_to List.not_mem_nil order stop none
  | some start =>
      refine (readMembers_from order start _).trans ?_
      -- What the start is read as makes no difference to how the stop is read.
      refine congrArg (Endpoint.ofValue? (some start) >>= ·) (funext fun first => ?_)
      cases stop with
      | none => rfl
      | some stop => exact readMembers_to (by decide) order stop first

theorem decode_of_lists (h : value.Lists ["from", "to"] (given start stop)) :
    decode .asWritten value = ofValues start stop := by
  rw [← readMembers_given .asWritten]
  exact (record .asWritten).read_of_lists (nodup_names _) .empty h (.inl rfl)

theorem ofJson_of_holds {start stop : Option (Json Empty)} {value : Json Empty}
    (h : value.Holds ["from", "to"] (given start stop)) :
    ofJson decode value = ofValues start stop := by
  have hnames : ["from", "to"].Pairwise (· ≤ ·) := by decide
  rw [← readMembers_given .byName]
  exact (record .byName).read_byName hnames (nodup_names _) .empty (pairwise_given start stop)
    (nodup_given start stop) h (.inl rfl)

/-! ### Ends in any order -/

/-- The request read so far, with the end of a name taken from another. -/
def supply (request : Request) (name : String) (r : Request) : Request :=
  ⟨if name = "from" then request.start else r.start, if name = "to" then request.stop else r.stop⟩

theorem supply_comm (request : Request) (first second : String) (r : Request) :
    request.supply second (request.supply first r) =
      request.supply first (request.supply second r) := by
  simp only [supply, mk.injEq]
  constructor <;> split <;> split <;> rfl

theorem ofValues_eq_ok_iff {request : Request} : ofValues start stop = .ok request ↔
    Endpoint.ofValue? start = .ok request.start ∧ Endpoint.ofValue? stop = .ok request.stop := by
  constructor
  · intro h
    obtain ⟨first, hfirst, h⟩ := bind_eq_ok.1 h
    obtain ⟨second, hsecond, h⟩ := bind_eq_ok.1 h
    cases h
    exact ⟨hfirst, hsecond⟩
  · rintro ⟨hfirst, hsecond⟩
    exact bind_eq_ok.2 ⟨_, hfirst, bind_eq_ok.2 ⟨_, hsecond, rfl⟩⟩

theorem takes_of_mem_given {request : Request} (h : ofValues start stop = .ok request)
    (order : MemberOrder) :
    ∀ member ∈ given start stop, (record order).Takes request.supply member := by
  obtain ⟨hstart, hstop⟩ := ofValues_eq_ok_iff.1 h
  intro member hmember
  rcases List.mem_append.1 hmember with hmember | hmember
  all_goals
    obtain ⟨given, hgiven, rfl⟩ := List.mem_map.1 hmember
    rw [Option.mem_toList] at hgiven
    cases hgiven
  · exact ⟨_, rfl, Slot.store_of ((Endpoint.decodeOption_decode order _).trans hstart) "from" _⟩
  · exact ⟨_, rfl, Slot.store_of ((Endpoint.decodeOption_decode order _).trans hstop) "to" _⟩

/-- The ends that no value is given for are those of the empty request. -/
theorem foldl_given {request : Request} (h : ofValues start stop = .ok request) :
    (given start stop).foldl (fun r member => request.supply member.1 r) .empty = request := by
  obtain ⟨hstart, hstop⟩ := ofValues_eq_ok_iff.1 h
  obtain ⟨first, second⟩ := request
  cases start with
  | none =>
      cases hstart
      cases stop with
      | none => cases hstop; rfl
      | some _ => rfl
  | some _ =>
      cases stop with
      | none => cases hstop; rfl
      | some _ => rfl

/-- Ends that are not refused may be given in either order. -/
theorem decode_eq_ok_of_holds {request : Request} (order : MemberOrder)
    (h : value.Holds ["from", "to"] (given start stop))
    (hrequest : ofValues start stop = .ok request) : decode order value = .ok request := by
  have hread : (record order).read order .empty value = _ :=
    (record order).read_of_holds (nodup_names order) order .empty h (.inl rfl)
      (takes_of_mem_given hrequest order) (nodup_given start stop) request.supply_comm
  rw [foldl_given hrequest] at hread
  exact hread

end Request

end QueryWindow
