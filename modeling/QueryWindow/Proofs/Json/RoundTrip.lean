import QueryWindow.Json.Read
import QueryWindow.Proofs.Json.Tokens

/-!
# QueryWindow.Proofs.Json.RoundTrip

**A JSON value is read back from its text** (`JsonDocument.read_toText`). The reader works on the
tokens with the open containers around it; the tokens of a value lead it to where it gives the value
to these containers, whatever they are (`Reader.run_tokens`). Nothing is wrong on the way, so that
the result is the value itself, taken as one that might have had faults (`Json.widen`).
-/

namespace QueryWindow

namespace Json

variable {φ : Type}

mutual

/-- A value in which nothing is wrong, among those in which something might be. -/
def widen : Json Empty → Json φ
  | null => null
  | bool b => bool b
  | number n => number n
  | text content => text content
  | array items _ => ofItems (widenItems items)
  | object members _ => ofMembers (widenMembers members)

/-- The items of an array in which nothing is wrong. -/
def widenItems : List (Json Empty) → List (Json φ)
  | [] => []
  | item :: items => widen item :: widenItems items

/-- The members of an object in which nothing is wrong. -/
def widenMembers : List (String × Json Empty) → List (String × Json φ)
  | [] => []
  | (name, value) :: members => (name, widen value) :: widenMembers members

end

end Json

/-- What a step leads to with the tokens that are left. -/
def Step.follow : Step → List Token → Json Fault × List Token
  | next expected frames, tokens => Reader.run expected frames tokens
  | done value, tokens => (value, tokens)
  | stop value, _ => (value, [])

namespace Reader

theorem run_cons (expected : Expected) (frames : List Frame) (token : Token) (tokens : List Token) :
    run expected frames (token :: tokens) = (step expected frames token).follow tokens := by
  rw [run]
  cases step expected frames token <;> rfl

/-- A token that does not end the array is the first of an item. -/
theorem run_firstItem {token : Token} (h : token ≠ .closeBracket) (frames : List Frame)
    (tokens : List Token) : run .firstItem frames (token :: tokens) =
      run .value (.array [] :: frames) (token :: tokens) := by
  rw [run_cons, run_cons]
  cases token with
  | closeBracket => exact absurd rfl h
  | _ => rfl

theorem exists_tokens_eq (value : Json Empty) :
    ∃ token tokens, value.tokens = token :: tokens ∧ token ≠ .closeBracket := by
  cases value with
  | flawed flaw => exact flaw.wanted.elim
  | _ => exact ⟨_, _, rfl, nofun⟩

theorem exists_itemTokens_eq (item : Json Empty) (items : List (Json Empty)) :
    ∃ token tokens, Json.itemTokens (item :: items) = token :: tokens ∧ token ≠ .closeBracket := by
  obtain ⟨token, tokens, htokens, hne⟩ := exists_tokens_eq item
  cases items with
  | nil => exact ⟨token, tokens, htokens, hne⟩
  | cons next items =>
      rw [Json.itemTokens_cons_cons, htokens]
      exact ⟨token, _, rfl, hne⟩

/-- A name is that of the first member. -/
theorem run_firstName (name : String) (frames : List Frame) (tokens : List Token) :
    run .firstName frames (.text name :: tokens) =
      run (.name ⟨[], none⟩) frames (.text name :: tokens) := by
  rw [run_cons, run_cons]
  rfl

theorem exists_memberTokens_eq (member : JsonMember Empty) (members : List (JsonMember Empty)) :
    ∃ tokens, Json.memberTokens (member :: members) = .text member.1 :: tokens := by
  cases members with
  | nil => exact ⟨_, rfl⟩
  | cons next members => exact ⟨_, rfl⟩

/-- The tokens of a value make this value, for whatever containers are around it. -/
def Makes (value : Json Empty) : Prop :=
  ∀ (frames : List Frame) (rest : List Token),
    run .value frames (value.tokens ++ rest) = (give value.widen frames).follow rest

/-- A member comes after the earlier ones. -/
theorem run_member {value : Json Empty} (h : Makes value) (name : String)
    (earlier : List (JsonMember Fault)) (frames : List Frame) (rest : List Token) :
    run (.name ⟨earlier, none⟩) frames (.text name :: .colon :: (value.tokens ++ rest)) =
      run (.moreMembers ⟨earlier ++ [(name, value.widen)], none⟩) frames rest := by
  have hname := run_cons (.name ⟨earlier, none⟩) frames (.text name)
    (.colon :: (value.tokens ++ rest))
  have hcolon := run_cons (.colon ⟨earlier, none⟩ (.ok name)) frames .colon (value.tokens ++ rest)
  have hvalue := h (.member ⟨earlier, none⟩ (.ok name) :: frames) rest
  exact hname.trans (hcolon.trans hvalue)

theorem run_itemTokens {item : Json Empty} {items : List (Json Empty)}
    (h : ∀ other ∈ item :: items, Makes other) (earlier : List (Json Fault)) (frames : List Frame)
    (rest : List Token) :
    run .value (.array earlier :: frames)
        (Json.itemTokens (item :: items) ++ .closeBracket :: rest) =
      (give (.ofItems (earlier ++ Json.widenItems (item :: items))) frames).follow rest := by
  induction items generalizing item earlier with
  | nil =>
      have hitem := h item List.mem_cons_self (.array earlier :: frames) (.closeBracket :: rest)
      exact hitem.trans (run_cons (.moreItems (earlier ++ [item.widen])) frames .closeBracket rest)
  | cons next items ih =>
      have hitem : Makes item := h item List.mem_cons_self
      have hitems := ih (fun other hmem => h other (List.mem_cons_of_mem _ hmem))
        (earlier ++ [item.widen])
      rw [List.append_assoc] at hitems
      rw [Json.itemTokens_cons_cons, List.append_assoc, hitem]
      exact (run_cons (.moreItems (earlier ++ [item.widen])) frames .comma _).trans hitems

theorem run_memberTokens {member : JsonMember Empty} {members : List (JsonMember Empty)}
    (h : ∀ other ∈ member :: members, Makes other.2) (earlier : List (JsonMember Fault))
    (frames : List Frame) (rest : List Token) :
    run (.name ⟨earlier, none⟩) frames
        (Json.memberTokens (member :: members) ++ .closeBrace :: rest) =
      (give (.ofMembers (earlier ++ Json.widenMembers (member :: members))) frames).follow
        rest := by
  induction members generalizing member earlier with
  | nil =>
      obtain ⟨name, value⟩ := member
      have hmember := run_member (h _ List.mem_cons_self) name earlier frames (.closeBrace :: rest)
      exact hmember.trans (run_cons _ frames .closeBrace rest)
  | cons next members ih =>
      obtain ⟨name, value⟩ := member
      have hvalue : Makes value := h _ List.mem_cons_self
      have hmembers := ih (fun other hmem => h other (List.mem_cons_of_mem _ hmem))
        (earlier ++ [(name, value.widen)])
      rw [List.append_assoc] at hmembers
      rw [Json.memberTokens_cons_cons, List.append_assoc, List.cons_append, List.cons_append,
        run_member hvalue]
      exact (run_cons _ frames .comma _).trans hmembers

/-- **The tokens of a value make this value.** -/
theorem run_tokens {value : Json Empty} (h : value.OfWords) : Makes value := by
  induction h with
  | null => exact fun frames rest => run_cons .value frames .null rest
  | bool b => exact fun frames rest => run_cons .value frames (.bool b) rest
  | @number n _ => exact fun frames rest => run_cons .value frames (.number n) rest
  | text content => exact fun frames rest => run_cons .value frames (.text content) rest
  | @array items _ _ ih =>
      intro frames rest
      rw [Json.tokens, List.append_assoc, List.cons_append, run_cons]
      cases items with
      | nil => exact run_cons .firstItem frames .closeBracket rest
      | cons item items =>
          obtain ⟨token, tokens, htokens, hne⟩ := exists_itemTokens_eq item items
          have hitems := run_itemTokens ih [] frames rest
          rw [htokens, List.cons_append, ← run_firstItem hne, ← List.cons_append,
            ← htokens] at hitems
          exact hitems
  | @object members _ _ ih =>
      intro frames rest
      rw [Json.tokens, List.append_assoc, List.cons_append, run_cons]
      cases members with
      | nil => exact run_cons .firstName frames .closeBrace rest
      | cons member members =>
          obtain ⟨tokens, htokens⟩ := exists_memberTokens_eq member members
          have hmembers := run_memberTokens ih [] frames rest
          rw [htokens, List.cons_append, ← run_firstName, ← List.cons_append, ← htokens] at hmembers
          exact hmembers

end Reader

/-- **A value is read back from its text**, if its numbers are integers that a word can hold.
Nothing follows it. -/
theorem JsonDocument.read_toText {value : Json Empty} (h : value.OfWords) :
    JsonDocument.read value.toText = ⟨value.widen, false⟩ := by
  have htokens : Token.scanAll value.write = value.tokens := by
    simpa only [List.append_nil, Token.scanAll] using Token.scanAll_write h [] Token.endsNumber_nil
  have hrun : Reader.run .value [] value.tokens = (value.widen, []) := by
    have hmakes := Reader.run_tokens h [] []
    rw [List.append_nil] at hmakes
    exact hmakes
  rw [read, Json.toText, String.toList_ofList, htokens, hrun]
  rfl

end QueryWindow
