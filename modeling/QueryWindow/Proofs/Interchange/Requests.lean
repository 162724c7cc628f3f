import QueryWindow.Interchange
import QueryWindow.Proofs.Json.RoundTrip

/-!
# QueryWindow.Proofs.Interchange.Requests

**Requests that come as JSON.** Every request can be sent, as a value or as a text, and what arrives
is the request with all its timestamps turned into texts (`Request.ofJson_toJson`,
`Request.ofJsonText_toText`). The ends that a request has not are not sent, so that none of them
becomes an empty text on the way.
-/

namespace QueryWindow

variable {φ : Type}

/-! ### Decoding what was written -/

/-- Members in the order of their names are visited in that order either way. -/
theorem MemberOrder.arrange_of_pairwise (order : MemberOrder) {members : List (JsonMember φ)}
    (h : members.Pairwise fun a b => a.1 ≤ b.1) : order.arrange members = members := by
  cases order with
  | asWritten => rfl
  | byName => exact List.mergeSort_of_pairwise (h.imp decide_eq_true)

/-- To decode a text is to decode the value it consists of. -/
theorem ofJsonText_of_read {α : Type} (decode : MemberOrder → Json Fault → Decoded Fault α)
    {text : String} {value : Json Fault} (h : JsonDocument.read text = ⟨value, false⟩) :
    ofJsonText decode text = decode .asWritten value := by
  rw [ofJsonText, h]
  exact bind_pure (decode .asWritten value)

/-- To decode the text of a value is to decode the value. -/
theorem ofJsonText_eq_decode {α : Type} (decode : MemberOrder → Json Fault → Decoded Fault α)
    {value : Json Empty} (h : value.OfWords) :
    ofJsonText decode value.toText = decode .asWritten value.widen :=
  ofJsonText_of_read decode (JsonDocument.read_toText h)

/-! ### Requests -/

/-- An end as it arrives, which is always a text. -/
def Endpoint.asText : Endpoint → Endpoint
  | text content => text content
  | date t => text t.applicationText

theorem Endpoint.asText_eq (e : Endpoint) : e.asText = .text e.transportText := by
  cases e <;> rfl

namespace Request

/-- The same request with other ends in place of those it has. -/
def mapEnds (f : Endpoint → Endpoint) (request : Request) : Request :=
  ⟨request.start.map f, request.stop.map f⟩

/-- The members that are sent of a request. -/
def members (request : Request) : List (JsonMember φ) :=
  (request.start.toList.map fun e => ("from", e.toJson)) ++
    request.stop.toList.map fun e => ("to", e.toJson)

theorem toJson_eq (request : Request) : (request.toJson : Json φ) = .ofMembers request.members :=
  rfl

/-- They are in the order of their names. -/
theorem pairwise_members (request : Request) :
    (request.members : List (JsonMember φ)).Pairwise fun a b => a.1 ≤ b.1 := by
  have hnames : "from" ≤ "to" := by decide
  obtain ⟨start, stop⟩ := request
  cases start <;> cases stop <;> simp [members, hnames]

theorem exists_text_of_mem_members {request : Request} {member : JsonMember φ}
    (h : member ∈ request.members) : ∃ content, member.2 = .text content := by
  rcases List.mem_append.1 h with h | h
  all_goals
    obtain ⟨e, -, rfl⟩ := List.mem_map.1 h
    exact ⟨e.transportText, rfl⟩

/-- What was sent is decoded as the request with texts for ends. -/
theorem decode_toJson (order : MemberOrder) (request : Request) :
    decode order (request.toJson : Json φ) = .ok (request.mapEnds .asText) := by
  rw [decode, toJson_eq, Json.ofMembers, Record.read,
    order.arrange_of_pairwise request.pairwise_members]
  obtain ⟨start, stop⟩ := request
  -- Whichever ends are there, their names are found among the fields, and each only once.
  cases start <;> cases stop <;>
    (simp only [mapEnds, Option.map_some, Option.map_none, Endpoint.asText_eq]; rfl)

theorem ofJson_toJson (request : Request) :
    ofJson decode request.toJson = .ok (request.mapEnds .asText) :=
  decode_toJson .byName request

theorem ofWords_toJson (request : Request) : (request.toJson : Json Empty).OfWords := by
  refine .object fun member hmember => ?_
  obtain ⟨content, hcontent⟩ := exists_text_of_mem_members hmember
  rw [hcontent]
  exact .text content

theorem widen_toJson (request : Request) :
    (request.toJson : Json Empty).widen = (request.toJson : Json φ) := by
  obtain ⟨start, stop⟩ := request
  cases start <;> cases stop <;> rfl

theorem ofJsonText_toText (request : Request) :
    ofJsonText decode request.toJson.toText = .ok (request.mapEnds .asText) := by
  rw [ofJsonText_eq_decode decode request.ofWords_toJson, widen_toJson]
  exact decode_toJson .asWritten request

end Request

end QueryWindow
