import QueryWindow.Pattern.Read
import QueryWindow.Proofs.Outcome
import QueryWindow.Proofs.Text.Numerals
import QueryWindow.Proofs.Text.Trim

/-!
# QueryWindow.Proofs.Pattern.Numbers

**Which texts are read as a number.** Reading takes as many digits as it may and never gives one
back. `IsRun` says so without the reader: a row of digits is taken whole if it has no room to grow,
or no digit behind it. `Quantity.Numeral` adds the blanks and the sign that may stand in front, and
`Quantity.read_eq_ok_iff` says that these are exactly the pieces of text that are read.
-/

namespace QueryWindow

/-! ### Rows of digits -/

/-- Digits that are taken from a text as far as they go: they are within the limit, and they fill it
or no digit follows them. -/
structure IsRun (limit : Option Nat) (digits rest : List Char) : Prop where
  /-- There are digits only. -/
  allDigits : ∀ c ∈ digits, c.isDigit = true
  /-- They are not too many. -/
  within : ∀ n ∈ limit, digits.length ≤ n
  /-- They are not too few. -/
  ends : limit = some digits.length ∨ ∀ c ∈ rest.head?, c.isDigit = false

theorem leadingDigits_of_isRun {limit : Option Nat} {digits rest : List Char}
    (h : IsRun limit digits rest) : leadingDigits limit (digits ++ rest) = digits := by
  obtain ⟨hd, hw, hends⟩ := h
  unfold leadingDigits
  cases limit with
  | none =>
      rcases hends with hlimit | hr
      · cases hlimit
      · exact Digits.takeWhile_append hd hr
  | some n =>
      -- The limit cuts the text behind the digits: what is left of the rest is none of them.
      have hn := hw n rfl
      dsimp only
      rw [List.take_append, List.take_of_length_le hn]
      rcases hends with hlimit | hr
      · obtain rfl := Option.some.inj hlimit
        simpa using @Digits.takeWhile_append digits [] hd (by simp)
      · refine Digits.takeWhile_append hd fun c hc => hr c ?_
        cases rest with
        | nil => simp at hc
        | cons d rest =>
            cases hk : n - digits.length with
            | zero => simp [hk] at hc
            | succ k => simpa [hk] using hc

theorem leadingDigits_cons (limit : Option Nat) (c : Char) (cs : List Char) :
    leadingDigits limit (c :: cs) =
      if limit ≠ some 0 ∧ c.isDigit then c :: leadingDigits (limit.map (· - 1)) cs else [] := by
  cases limit with
  | none => by_cases hc : c.isDigit <;> simp [leadingDigits, hc]
  | some n =>
      cases n with
      | zero => simp [leadingDigits]
      | succ n => by_cases hc : c.isDigit <;> simp [leadingDigits, hc]

theorem IsRun.cons {limit : Option Nat} {c : Char} {digits rest : List Char}
    (hlimit : limit ≠ some 0) (hc : c.isDigit = true)
    (h : IsRun (limit.map (· - 1)) digits rest) : IsRun limit (c :: digits) rest := by
  refine ⟨?_, ?_, ?_⟩
  · intro d hd
    rcases List.mem_cons.mp hd with rfl | hd
    · exact hc
    · exact h.allDigits d hd
  · intro n hn
    obtain rfl := hn
    have := h.within (n - 1) rfl
    have : n ≠ 0 := fun hz => hlimit (by rw [hz])
    simp only [List.length_cons]
    omega
  · rcases h.ends with hends | hends
    · cases limit with
      | none => cases hends
      | some n =>
          have : n - 1 = digits.length := Option.some.inj hends
          have : n ≠ 0 := fun hz => hlimit (by rw [hz])
          refine Or.inl (congrArg some ?_)
          simp only [List.length_cons]
          omega
    · exact Or.inr hends

/-- The digits at the start of a text are taken as far as they go. -/
theorem exists_isRun_leadingDigits (limit : Option Nat) (cs : List Char) :
    ∃ rest, cs = leadingDigits limit cs ++ rest ∧ IsRun limit (leadingDigits limit cs) rest := by
  -- The limit goes down by one with each digit, so that it has to vary in the induction.
  induction cs generalizing limit with
  | nil =>
      have hnil : leadingDigits limit [] = [] := by cases limit <;> simp [leadingDigits]
      rw [hnil]
      exact ⟨[], rfl, by simp, by simp, by simp⟩
  | cons c cs ih =>
      rw [leadingDigits_cons]
      split
      · rename_i h
        obtain ⟨rest, hcs, hrun⟩ := ih (limit.map (· - 1))
        refine ⟨rest, ?_, hrun.cons h.1 h.2⟩
        rw [List.cons_append, ← hcs]
      · rename_i h
        refine ⟨c :: cs, rfl, by simp, by simp, ?_⟩
        by_cases hlimit : limit = some 0
        · exact Or.inl hlimit
        · exact Or.inr fun d hd => by
            obtain rfl := Option.some.inj hd
            simpa [hlimit] using h

/-- A number of one digit or more is read off a row of digits that is taken whole. -/
theorem readNatural_eq_ok_iff {limit : Option Nat} {cs rest : List Char} {n : Nat} :
    readNatural 1 limit cs = .ok (n, rest) ↔
      ∃ digits, cs = digits ++ rest ∧ digits ≠ [] ∧ IsRun limit digits rest ∧
        n = Digits.value 10 digits := by
  unfold readNatural
  dsimp only
  constructor
  · intro h
    split at h
    · cases h
    · split at h
      · cases h
      · rename_i hlen
        obtain ⟨tail, hcs, hrun⟩ := exists_isRun_leadingDigits limit cs
        generalize leadingDigits limit cs = digits at h hlen hcs hrun
        subst hcs
        rw [List.drop_left] at h
        cases h
        refine ⟨digits, rfl, ?_, hrun, rfl⟩
        intro hnil
        simp [hnil] at hlen
  · intro h
    obtain ⟨digits, rfl, hne, hrun, rfl⟩ := h
    have hpos := List.length_pos_iff.2 hne
    rw [leadingDigits_of_isRun hrun, if_neg, if_neg, List.drop_left]
    · omega
    · rw [List.length_append]
      omega

/-! ### Numbers -/

namespace Quantity

/-- The pieces of text that are read as a number when they are followed by the given rest, with the
value they have. -/
inductive Numeral (kind : Quantity) : List Char → List Char → Int → Prop
  /-- Digits, as many as the kind of number allows. -/
  | plain {blanks digits rest : List Char} (hb : ∀ c ∈ blanks, isBlank c = true)
      (hne : digits ≠ []) (hrun : IsRun kind.readWidth digits rest) :
      Numeral kind (blanks ++ digits) rest (Digits.value 10 digits)
  /-- A plus sign and any number of digits. -/
  | positive {blanks digits rest : List Char} (hs : kind.signed = true)
      (hb : ∀ c ∈ blanks, isBlank c = true) (hne : digits ≠ []) (hrun : IsRun none digits rest) :
      Numeral kind (blanks ++ '+' :: digits) rest (Digits.value 10 digits)
  /-- A minus sign and any number of digits. -/
  | negative {blanks digits rest : List Char} (hs : kind.signed = true)
      (hb : ∀ c ∈ blanks, isBlank c = true) (hne : digits ≠ []) (hrun : IsRun none digits rest) :
      Numeral kind (blanks ++ '-' :: digits) rest (-(Digits.value 10 digits : Int))

theorem readValue_blanks (kind : Quantity) {blanks : List Char}
    (hb : ∀ c ∈ blanks, isBlank c = true) (cs : List Char) :
    kind.readValue (blanks ++ cs) = kind.readValue cs := by
  unfold readValue
  rw [skipBlanks_append hb]

/-- A digit is neither a blank nor a sign. -/
theorem readValue_of_digit (kind : Quantity) {c : Char} (hc : c.isDigit = true) (cs : List Char) :
    kind.readValue (c :: cs) =
      (readNatural 1 kind.readWidth (c :: cs)).map fun (n, rest) => ((n : Int), rest) := by
  unfold readValue
  rw [skipBlanks_cons_of_not_blank (isBlank_of_isDigit hc)]
  split
  · rename_i h
    cases h
    exact absurd hc (by decide)
  · rename_i h
    cases h
    exact absurd hc (by decide)
  · rfl

/-- A sign is only looked for where the number may have one. -/
theorem readValue_of_sign {kind : Quantity} (hs : kind.signed = true) (cs : List Char) :
    kind.readValue ('+' :: cs) = (readNatural 1 none cs).map (fun (n, rest) => ((n : Int), rest)) ∧
      kind.readValue ('-' :: cs) =
        (readNatural 1 none cs).map fun (n, rest) => (-(n : Int), rest) := by
  unfold readValue
  rw [hs, skipBlanks_cons_of_not_blank (by decide), skipBlanks_cons_of_not_blank (by decide)]
  exact ⟨rfl, rfl⟩

/-- The pieces of text that are read as a number are the numerals. -/
theorem readValue_eq_ok_iff {kind : Quantity} {cs rest : List Char} {value : Int} :
    kind.readValue cs = .ok (value, rest) ↔
      ∃ piece, cs = piece ++ rest ∧ kind.Numeral piece rest value := by
  constructor
  · intro h
    obtain ⟨blanks, hblank, hcs⟩ := exists_blanks cs
    unfold readValue at h
    split at h
    · rename_i hs htail
      obtain ⟨⟨n, _⟩, hn, hv⟩ := exceptMap_eq_ok.1 h
      cases hv
      obtain ⟨digits, rfl, hne, hrun, rfl⟩ := readNatural_eq_ok_iff.1 hn
      rw [htail] at hcs
      exact ⟨_, by rw [hcs]; simp, .negative hs hblank hne hrun⟩
    · rename_i hs htail
      obtain ⟨⟨n, _⟩, hn, hv⟩ := exceptMap_eq_ok.1 h
      cases hv
      obtain ⟨digits, rfl, hne, hrun, rfl⟩ := readNatural_eq_ok_iff.1 hn
      rw [htail] at hcs
      exact ⟨_, by rw [hcs]; simp, .positive hs hblank hne hrun⟩
    · obtain ⟨⟨n, _⟩, hn, hv⟩ := exceptMap_eq_ok.1 h
      cases hv
      obtain ⟨digits, htail, hne, hrun, rfl⟩ := readNatural_eq_ok_iff.1 hn
      rw [htail] at hcs
      exact ⟨_, by rw [hcs]; simp, .plain hblank hne hrun⟩
  · intro h
    obtain ⟨piece, rfl, h⟩ := h
    cases h with
    | @plain blanks digits _ hb hne hrun =>
        -- The first digit shows that there is no sign to be read.
        rw [List.append_assoc, readValue_blanks kind hb]
        obtain ⟨c, ds, rfl⟩ := List.exists_cons_of_ne_nil hne
        rw [List.cons_append, readValue_of_digit kind (hrun.allDigits c List.mem_cons_self)]
        exact exceptMap_eq_ok.2 ⟨_, readNatural_eq_ok_iff.2 ⟨c :: ds, rfl, hne, hrun, rfl⟩, rfl⟩
    | @positive blanks digits _ hs hb hne hrun =>
        rw [List.append_assoc, readValue_blanks kind hb, List.cons_append,
          (readValue_of_sign hs _).1]
        exact exceptMap_eq_ok.2 ⟨_, readNatural_eq_ok_iff.2 ⟨digits, rfl, hne, hrun, rfl⟩, rfl⟩
    | @negative blanks digits _ hs hb hne hrun =>
        rw [List.append_assoc, readValue_blanks kind hb, List.cons_append,
          (readValue_of_sign hs _).2]
        exact exceptMap_eq_ok.2 ⟨_, readNatural_eq_ok_iff.2 ⟨digits, rfl, hne, hrun, rfl⟩, rfl⟩

/-- A number is read off a numeral whose value is one of its values. -/
theorem read_eq_ok_iff {kind : Quantity} {fields result : Fields} {cs rest : List Char} :
    kind.read fields cs = .ok (result, rest) ↔
      ∃ piece value, cs = piece ++ rest ∧ kind.Numeral piece rest value ∧
        (kind.least ≤ value ∧ value ≤ kind.greatest) ∧
        fields.setAll (kind.facts value) = .ok result := by
  unfold Quantity.read
  simp only [bind_eq_ok, Prod.exists]
  constructor
  · intro h
    obtain ⟨value, tail, hvalue, h⟩ := h
    obtain ⟨piece, rfl, hnumeral⟩ := readValue_eq_ok_iff.1 hvalue
    split at h
    · rename_i hrange
      obtain ⟨fields', hset, h⟩ := bind_eq_ok.1 h
      cases h
      exact ⟨piece, value, rfl, hnumeral, hrange, hset⟩
    · cases h
  · intro h
    obtain ⟨piece, value, rfl, hnumeral, hrange, hset⟩ := h
    refine ⟨value, rest, readValue_eq_ok_iff.2 ⟨piece, rfl, hnumeral⟩, ?_⟩
    rw [if_pos hrange, hset]
    rfl

end Quantity

end QueryWindow
