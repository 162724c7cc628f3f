import Mathlib.Data.List.Nodup
import QueryWindow.Proofs.Interchange.Requests

/-!
# QueryWindow.Proofs.Interchange.Records

**What a record is read from, whichever way a JSON value gives it.** A value may give the fields of
a record by name, as members of an object among others that are passed over, or by position, as the
items of an array (`Json.Lists`). Both come to reading the members alone, errors included
(`Record.read_of_lists`, `Record.read_byName`). Where each member is taken in without error and it
makes no difference which one comes first, their order does not matter (`Record.read_of_holds`).
-/

namespace QueryWindow

variable {φ σ : Type}

theorem MemberOrder.perm_arrange (order : MemberOrder) (members : List (JsonMember φ)) :
    (order.arrange members).Perm members := by
  cases order with
  | asWritten => exact .refl _
  | byName => exact List.mergeSort_perm _ _

/-- Members visited by name come in the order of their names. -/
theorem MemberOrder.pairwise_arrange_byName (members : List (JsonMember φ)) :
    (MemberOrder.byName.arrange members).Pairwise fun a b => a.1 ≤ b.1 := by
  have htrans : ∀ a b c : JsonMember φ,
      decide (a.1 ≤ b.1) = true → decide (b.1 ≤ c.1) = true → decide (a.1 ≤ c.1) = true := by
    simp only [decide_eq_true_eq]
    exact fun _ _ _ => String.le_trans
  have htotal : ∀ a b : JsonMember φ, (decide (a.1 ≤ b.1) || decide (b.1 ≤ a.1)) = true := by
    simp only [Bool.or_eq_true, decide_eq_true_eq]
    exact fun a b => String.le_total a.1 b.1
  exact (List.pairwise_mergeSort htrans htotal members).imp of_decide_eq_true

/-! ### Values that give the fields of a record -/

namespace Json

/-- A value lists members whose names are among those given: as an object, in which there may be
other members if nothing is wrong with them, or by their values alone, as an array, if the members
are the first ones in order. -/
inductive Lists (names : List String) : List (JsonMember φ) → Json φ → Prop
  | object {members : List (JsonMember φ)}
      (hother : ∀ member ∈ members, member.1 ∉ names → member.2.faultInPassing? = none) :
      Lists names (members.filter fun member => member.1 ∈ names) (.ofMembers members)
  | array {members : List (JsonMember φ)} (hfirst : members.map Prod.fst <+: names) :
      Lists names members (.ofItems (members.map Prod.snd))

/-- A value lists members in whatever order. -/
def Holds (names : List String) (members : List (JsonMember φ)) (value : Json φ) : Prop :=
  ∃ listed, listed.Perm members ∧ Lists names listed value

theorem Lists.holds {names : List String} {members : List (JsonMember φ)} {value : Json φ}
    (h : Lists names members value) : Holds names members value :=
  ⟨members, .refl _, h⟩

/-- Members are held by an object in which they are those that have such names. -/
theorem holds_ofMembers {names : List String} {members held : List (JsonMember φ)}
    (hother : ∀ member ∈ members, member.1 ∉ names → member.2.faultInPassing? = none)
    (hperm : (members.filter fun member => member.1 ∈ names).Perm held) :
    Holds names held (.ofMembers members) :=
  ⟨_, hperm, .object hother⟩

/-- Nothing is wrong with a whole value. -/
theorem faultInPassing?_eq_none (value : Json Empty) : value.faultInPassing? = none := by
  cases h : value.faultInPassing? with
  | none => rfl
  | some fault => exact fault.elim

/-- Members that have such names are listed by the object that has no others. -/
theorem lists_ofMembers {names : List String} {members : List (JsonMember φ)}
    (h : ∀ member ∈ members, member.1 ∈ names) : Lists names members (.ofMembers members) := by
  have hlists : Lists names _ (.ofMembers members) :=
    .object fun member hmember hother => absurd (h member hmember) hother
  rwa [List.filter_eq_self.2 fun member hmember => decide_eq_true (h member hmember)] at hlists

end Json

/-! ### Reading members -/

/-- A value that can be decoded sets the field. -/
theorem Slot.store_of {α : Type} {decode : Json φ → Decoded φ α} {value : Json φ} {a : α}
    (h : decode value = .ok a) (name : String) (set : α → σ → σ) (state : σ) :
    (Slot.of name decode set).store value state = .ok (set a state) := by
  show (decode value).map (fun a => set a state) = _
  rw [h]
  rfl

namespace Record

variable {record : Record φ σ} {seen : List String}

/-- The names of the fields, in order. -/
def names (record : Record φ σ) : List String := record.slots.map Slot.name

theorem find?_eq_none {name : String} (h : name ∉ record.names) :
    (record.slots.find? fun slot => slot.name = name) = none := by
  rw [List.find?_eq_none]
  intro slot hslot hname
  exact h (of_decide_eq_true hname ▸ List.mem_map_of_mem hslot)

/-- A field is found by its name. -/
theorem find?_eq_some (hnodup : record.names.Nodup) {slot : Slot φ σ} (h : slot ∈ record.slots) :
    (record.slots.find? fun other => other.name = slot.name) = some slot := by
  obtain ⟨earlier, later, hslots⟩ := List.append_of_mem h
  rw [List.find?_eq_some_iff_append]
  refine ⟨decide_eq_true rfl, earlier, later, hslots, fun other hother => ?_⟩
  rw [names, hslots, List.map_append, List.nodup_append] at hnodup
  have hne := hnodup.2.2 other.name (List.mem_map_of_mem hother) slot.name
    (List.mem_map_of_mem List.mem_cons_self)
  rw [decide_eq_false hne]
  rfl

/-- A member of a field is taken in, if its name comes for the first time. -/
theorem readMembers_cons {name : String} {slot : Slot φ σ}
    (hslot : (record.slots.find? fun slot => slot.name = name) = some slot) (hseen : name ∉ seen)
    (value : Json φ) (members : List (JsonMember φ)) (state : σ) :
    record.readMembers none seen ((name, value) :: members) state =
      slot.store value state >>= record.readMembers none (name :: seen) members := by
  rw [readMembers, hslot]
  exact if_neg hseen

/-- Members that have no slot are passed over. -/
theorem readMembers_filter {members : List (JsonMember φ)} (seen : List String) (state : σ)
    (h : ∀ member ∈ members, member.1 ∉ record.names → member.2.faultInPassing? = none) :
    record.readMembers none seen members state =
      record.readMembers none seen (members.filter fun member => member.1 ∈ record.names)
        state := by
  induction members generalizing seen state with
  | nil => rfl
  | cons member members ih =>
      obtain ⟨name, value⟩ := member
      have hmembers := fun seen state =>
        ih seen state fun other hother => h other (List.mem_cons_of_mem _ hother)
      by_cases hname : name ∈ record.names
      · rw [List.filter_cons_of_pos (by simpa using hname), readMembers, readMembers]
        simp only [hmembers]
      · have hpass : value.passOver = .ok () := by
          rw [Json.passOver, h _ List.mem_cons_self hname]
        rw [List.filter_cons_of_neg (by simpa using hname), readMembers, find?_eq_none hname]
        show (value.passOver >>= fun _ => _) = _
        rw [hpass]
        exact hmembers seen state

/-- Items are read as the members of their fields. -/
theorem readItems_eq_readMembers (hnodup : record.names.Nodup) (total : Nat)
    {members : List (JsonMember φ)} {slots : List (Slot φ σ)} (hslots : slots ⊆ record.slots)
    (hfirst : members.map Prod.fst <+: slots.map Slot.name) (hnames : (slots.map Slot.name).Nodup)
    (hseen : ∀ slot ∈ slots, slot.name ∉ seen)
    (harray : record.wholeArray = none ∨ members.length = slots.length) (state : σ) :
    record.readItems total none slots (members.map Prod.snd) state =
      record.readMembers none seen members state := by
  -- The slots that are left have names not seen before, since names are distinct.
  induction members generalizing slots seen state with
  | nil =>
      cases slots with
      | nil => rfl
      | cons slot slots =>
          rcases harray with harray | hlength
          · simp [readItems, harray, readMembers, Json.finish]
          · cases hlength
  | cons member members ih =>
      obtain ⟨name, value⟩ := member
      cases slots with
      | nil => exact absurd hfirst (by simp)
      | cons slot slots =>
          obtain ⟨rfl, hrest⟩ := List.cons_prefix_cons.1 hfirst
          obtain ⟨hfresh, hnames⟩ := List.nodup_cons.1 hnames
          have hlater : ∀ other ∈ slots, other.name ∉ slot.name :: seen := fun other hother hmem =>
            (List.mem_cons.1 hmem).elim
              (fun heq => hfresh (heq ▸ List.mem_map_of_mem hother))
              (hseen other (List.mem_cons_of_mem _ hother))
          rw [List.map_cons, readItems, readMembers_cons
            (find?_eq_some hnodup (hslots List.mem_cons_self)) (hseen slot List.mem_cons_self)]
          refine congrArg (slot.store value state >>= ·) (funext fun next => ?_)
          exact ih (fun other hother => hslots (List.mem_cons_of_mem _ hother)) hrest hnames hlater
            (harray.imp_right fun hlength => Nat.succ.inj hlength) next

/-! ### Reading values -/

section Values

variable {members : List (JsonMember φ)} {value : Json φ}

theorem read_ofMembers (order : MemberOrder) (missing : σ)
    (hother : ∀ member ∈ members, member.1 ∉ record.names → member.2.faultInPassing? = none) :
    record.read order missing (.ofMembers members) =
      record.readMembers none []
        ((order.arrange members).filter fun member => member.1 ∈ record.names) missing :=
  readMembers_filter [] missing fun member hmember =>
    hother member ((order.perm_arrange members).mem_iff.1 hmember)

theorem read_ofItems (hnodup : record.names.Nodup) (order : MemberOrder) (missing : σ)
    (hfirst : members.map Prod.fst <+: record.names)
    (harray : record.wholeArray = none ∨ members.length = record.slots.length) :
    record.read order missing (.ofItems (members.map Prod.snd)) =
      record.readMembers none [] members missing :=
  readItems_eq_readMembers hnodup _ (List.Subset.refl _) hfirst hnodup
    (fun _ _ => List.not_mem_nil) harray missing

/-- Reading a value is reading the members it lists, in one order or another. -/
theorem exists_read_eq (hnodup : record.names.Nodup) (order : MemberOrder)
    (h : value.Lists record.names members)
    (harray : record.wholeArray = none ∨ members.length = record.slots.length) :
    ∃ listed, listed.Perm members ∧
      ∀ missing, record.read order missing value = record.readMembers none [] listed missing := by
  cases h with
  | object hother =>
      exact ⟨_, (order.perm_arrange _).filter _, fun missing => read_ofMembers order missing hother⟩
  | array hfirst =>
      exact ⟨members, .refl _, fun missing => read_ofItems hnodup order missing hfirst harray⟩

/-- **Objects and arrays that list the same members are read alike**, whatever the outcome. -/
theorem read_of_lists (hnodup : record.names.Nodup) (missing : σ)
    (h : value.Lists record.names members)
    (harray : record.wholeArray = none ∨ members.length = record.slots.length) :
    record.read .asWritten missing value = record.readMembers none [] members missing := by
  cases h with
  | object hother => exact read_ofMembers .asWritten missing hother
  | array hfirst => exact read_ofItems hnodup .asWritten missing hfirst harray

/-- Members in the order of their names, which are distinct, are in no other. -/
theorem eq_of_perm_of_pairwise {listed : List (JsonMember φ)} (hperm : listed.Perm members)
    (hlisted : listed.Pairwise fun a b => a.1 ≤ b.1)
    (hmembers : members.Pairwise fun a b => a.1 ≤ b.1) (hnodup : (members.map Prod.fst).Nodup) :
    listed = members := by
  refine List.Perm.eq_of_pairwise (fun a b ha hb hab hba => ?_) hlisted hmembers hperm
  exact List.inj_on_of_nodup_map hnodup (hperm.mem_iff.1 ha) hb (String.le_antisymm hab hba)

/-- Where the fields are in the order of their names, members visited by name are read in that order
however they are listed. -/
theorem read_byName (hnames : record.names.Pairwise (· ≤ ·)) (hnodup : record.names.Nodup)
    (missing : σ) (hmembers : members.Pairwise fun a b => a.1 ≤ b.1)
    (hdistinct : (members.map Prod.fst).Nodup) (h : value.Holds record.names members)
    (harray : record.wholeArray = none ∨ members.length = record.slots.length) :
    record.read .byName missing value = record.readMembers none [] members missing := by
  obtain ⟨listed, hperm, hlisted⟩ := h
  cases hlisted with
  | object hother =>
      rw [read_ofMembers .byName missing hother]
      rw [eq_of_perm_of_pairwise (((MemberOrder.perm_arrange _ _).filter _).trans hperm)
        ((MemberOrder.pairwise_arrange_byName _).filter _) hmembers hdistinct]
  | array hfirst =>
      have hsorted : listed.Pairwise fun a b => a.1 ≤ b.1 :=
        List.pairwise_map.1 (hnames.sublist hfirst.sublist)
      rw [read_ofItems hnodup .byName missing hfirst (hperm.length_eq ▸ harray),
        eq_of_perm_of_pairwise hperm hsorted hmembers hdistinct]

end Values

/-! ### Members taken in without error -/

section Taking

variable {update : String → σ → σ} {members : List (JsonMember φ)} {value : Json φ}

/-- A member is taken in without error, whatever has been read so far. -/
def Takes (record : Record φ σ) (update : String → σ → σ) (member : JsonMember φ) : Prop :=
  ∃ slot, (record.slots.find? fun slot => slot.name = member.1) = some slot ∧
    ∀ state, slot.store member.2 state = .ok (update member.1 state)

theorem readMembers_of_takes (htakes : ∀ member ∈ members, record.Takes update member)
    (hnodup : (members.map Prod.fst).Nodup) (hseen : ∀ member ∈ members, member.1 ∉ seen)
    (state : σ) : record.readMembers none seen members state =
      .ok (members.foldl (fun state member => update member.1 state) state) := by
  induction members generalizing seen state with
  | nil => rfl
  | cons member members ih =>
      obtain ⟨name, value⟩ := member
      obtain ⟨slot, hslot, hstore⟩ := htakes _ List.mem_cons_self
      obtain ⟨hfresh, hnodup⟩ := List.nodup_cons.1 hnodup
      have hlater : ∀ other ∈ members, other.1 ∉ name :: seen := fun other hother hmem =>
        (List.mem_cons.1 hmem).elim (fun heq => hfresh (List.mem_map.2 ⟨other, hother, heq⟩))
          (hseen other (List.mem_cons_of_mem _ hother))
      have hrest := ih (fun other hother => htakes other (List.mem_cons_of_mem _ hother)) hnodup
        hlater (update name state)
      rw [readMembers_cons hslot (hseen _ List.mem_cons_self), hstore]
      exact hrest

/-- **Members that are taken in without error may be given in any order**, if it makes no difference
to the result which of two comes first. -/
theorem read_of_holds (hnodup : record.names.Nodup) (order : MemberOrder) (missing : σ)
    (h : value.Holds record.names members)
    (harray : record.wholeArray = none ∨ members.length = record.slots.length)
    (htakes : ∀ member ∈ members, record.Takes update member)
    (hdistinct : (members.map Prod.fst).Nodup)
    (hcomm : ∀ first second state,
      update second (update first state) = update first (update second state)) :
    record.read order missing value =
      .ok (members.foldl (fun state member => update member.1 state) missing) := by
  obtain ⟨given, hgiven, hlists⟩ := h
  obtain ⟨listed, hlisted, hread⟩ :=
    exists_read_eq hnodup order hlists (hgiven.length_eq ▸ harray)
  have hperm := hlisted.trans hgiven
  rw [hread missing, readMembers_of_takes
    (fun member hmember => htakes member (hperm.mem_iff.1 hmember))
    ((hperm.map Prod.fst).nodup_iff.2 hdistinct) (fun _ _ => List.not_mem_nil)]
  exact congrArg Except.ok (hperm.foldl_eq' (fun a _ b _ state => hcomm a.1 b.1 state) missing)

end Taking

end Record

end QueryWindow
