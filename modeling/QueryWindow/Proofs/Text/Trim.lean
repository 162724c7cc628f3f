import Mathlib.Data.List.DropRight
import Mathlib.Data.List.TakeWhile
import QueryWindow.Text.Blank

/-!
# QueryWindow.Proofs.Text.Trim

**What trimming leaves.** `trim` first drops blanks in front and then, on the reversed text, at the
end. Here the second step gets a name of its own, `trimEnd`, and equations that follow the text from
its front, so that a text can be trimmed while it is read item by item. The two steps commute
(`skipBlanks_trimEnd`).

What is left is the one text with blanks around it and none at its own ends (`trim_eq_iff`), and more
blanks around the whole leave no more of it (`trim_append`).
-/

namespace QueryWindow

/-- A text is its blanks in front and what follows them. -/
theorem exists_blanks (cs : List Char) :
    ∃ blanks, (∀ c ∈ blanks, isBlank c = true) ∧ cs = blanks ++ skipBlanks cs :=
  ⟨cs.takeWhile isBlank, fun _ hc => List.mem_takeWhile_imp hc,
    List.takeWhile_append_dropWhile.symm⟩

theorem skipBlanks_append {blanks : List Char} (hb : ∀ c ∈ blanks, isBlank c = true)
    (cs : List Char) : skipBlanks (blanks ++ cs) = skipBlanks cs :=
  List.dropWhile_append_of_pos hb

/-- Blanks in front are skipped in the same way if something follows the text. -/
theorem skipBlanks_append_of_ne_nil {cs : List Char} (h : skipBlanks cs ≠ []) (rest : List Char) :
    skipBlanks (cs ++ rest) = skipBlanks cs ++ rest := by
  unfold skipBlanks at h ⊢
  rw [List.dropWhile_append, if_neg]
  simpa using h

/-- No blank is left in front once they have been skipped. -/
theorem isBlank_head_skipBlanks {c : Char} {cs : List Char} (h : c ∈ (skipBlanks cs).head?) :
    isBlank c = false := by
  have hhead := List.head?_dropWhile_not isBlank cs
  rw [← skipBlanks, Option.mem_def.1 h] at hhead
  exact hhead

/-- A text without the blanks at its end. -/
def trimEnd (cs : List Char) : List Char := (skipBlanks cs.reverse).reverse

theorem trim_eq_trimEnd (cs : List Char) : trim cs = trimEnd (skipBlanks cs) := rfl

@[simp] theorem trimEnd_nil : trimEnd [] = [] := rfl

theorem skipBlanks_eq_nil_iff {cs : List Char} :
    skipBlanks cs = [] ↔ ∀ c ∈ cs, isBlank c = true :=
  List.dropWhile_eq_nil_iff

theorem trimEnd_eq_nil_iff {cs : List Char} :
    trimEnd cs = [] ↔ ∀ c ∈ cs, isBlank c = true := by
  simp [trimEnd, skipBlanks_eq_nil_iff]

/-- A piece that ends in a character that is not blank survives trimming at the end. -/
theorem trimEnd_append_cons {c : Char} (hc : isBlank c = false) (piece cs : List Char) :
    trimEnd (piece ++ c :: cs) = piece ++ c :: trimEnd cs := by
  unfold trimEnd skipBlanks
  rw [List.reverse_append, List.reverse_cons, List.append_assoc, List.dropWhile_append]
  split
  · rename_i h
    rw [List.isEmpty_iff] at h
    simp [h, hc]
  · simp

theorem trimEnd_cons_of_not_blank {c : Char} (hc : isBlank c = false) (cs : List Char) :
    trimEnd (c :: cs) = c :: trimEnd cs :=
  trimEnd_append_cons hc [] cs

/-- A blank survives if something behind it does. -/
theorem trimEnd_cons_of_blank {c : Char} (hc : isBlank c = true) (cs : List Char) :
    trimEnd (c :: cs) = if trimEnd cs = [] then [] else c :: trimEnd cs := by
  split
  · rename_i h
    rw [trimEnd_eq_nil_iff] at h ⊢
    intro d hd
    rcases List.mem_cons.mp hd with rfl | hd
    · exact hc
    · exact h d hd
  · rename_i h
    unfold trimEnd skipBlanks at h ⊢
    rw [List.reverse_cons, List.dropWhile_append, if_neg]
    · simp
    · simpa using h

/-- A blank in front goes by dropping blanks in front, before or after trimming at the end. -/
theorem skipBlanks_trimEnd_cons {c : Char} (hc : isBlank c = true) (cs : List Char) :
    skipBlanks (trimEnd (c :: cs)) = skipBlanks (trimEnd cs) := by
  rw [trimEnd_cons_of_blank hc]
  split
  · rename_i h
    rw [h]
  · exact skipBlanks_cons_of_blank hc _

theorem skipBlanks_trimEnd (cs : List Char) : skipBlanks (trimEnd cs) = trim cs := by
  -- Both sides drop the blanks in front one by one, until a character keeps all that follows it.
  rw [trim_eq_trimEnd]
  induction cs with
  | nil => rfl
  | cons c cs ih =>
      cases hc : isBlank c with
      | true => rw [skipBlanks_trimEnd_cons hc, ih, skipBlanks_cons_of_blank hc]
      | false =>
          rw [skipBlanks_cons_of_not_blank hc, trimEnd_cons_of_not_blank hc,
            skipBlanks_cons_of_not_blank hc]

/-- Nothing is left exactly of a text of blanks. -/
theorem trim_eq_nil_iff {cs : List Char} : trim cs = [] ↔ ∀ c ∈ cs, isBlank c = true := by
  induction cs with
  | nil => simp [trim]
  | cons c cs ih =>
      rw [trim_eq_trimEnd]
      cases hc : isBlank c with
      | true => simp [skipBlanks_cons_of_blank hc, ← trim_eq_trimEnd, ih, hc]
      | false => simp [skipBlanks_cons_of_not_blank hc, trimEnd_cons_of_not_blank hc, hc]

/-! ### Pieces that trimming leaves alone -/

/-- Text with no blank in it. -/
def IsSolid (piece : List Char) : Prop := piece ≠ [] ∧ ∀ c ∈ piece, isBlank c = false

theorem isSolid_of_all {piece : List Char} (hne : piece.isEmpty = false)
    (h : piece.all (fun c => !isBlank c) = true) : IsSolid piece := by
  refine ⟨fun hnil => ?_, fun c hc => ?_⟩
  · rw [hnil] at hne
    cases hne
  · simpa using List.all_eq_true.1 h c hc

theorem IsSolid.skipBlanks_append {piece : List Char} (h : IsSolid piece) (cs : List Char) :
    skipBlanks (piece ++ cs) = piece ++ cs := by
  obtain ⟨c, piece, rfl⟩ := List.exists_cons_of_ne_nil h.1
  exact skipBlanks_cons_of_not_blank (h.2 c List.mem_cons_self) _

theorem IsSolid.trimEnd_append {piece : List Char} (h : IsSolid piece) (cs : List Char) :
    trimEnd (piece ++ cs) = piece ++ trimEnd cs := by
  obtain ⟨front, last, rfl⟩ : ∃ front last, piece = front ++ [last] :=
    ⟨_, _, (List.dropLast_concat_getLast h.1).symm⟩
  have hlast : isBlank last = false := h.2 last (by simp)
  simpa using trimEnd_append_cons hlast front cs

/-- A text between two solid pieces has no blanks at its ends, whatever is inside. -/
theorem IsSolid.trim_between {front back : List Char} (hf : IsSolid front) (hb : IsSolid back)
    (cs : List Char) : trim (front ++ (cs ++ back)) = front ++ (cs ++ back) := by
  obtain ⟨start, last, rfl⟩ : ∃ start last, back = start ++ [last] :=
    ⟨_, _, (List.dropLast_concat_getLast hb.1).symm⟩
  have hlast : isBlank last = false := hb.2 last (by simp)
  rw [trim_eq_trimEnd, hf.skipBlanks_append, hf.trimEnd_append, ← List.append_assoc,
    trimEnd_append_cons hlast, trimEnd_nil]

/-! ### Blanks around a text -/

theorem trimEnd_eq_rdropWhile (cs : List Char) : trimEnd cs = cs.rdropWhile isBlank := rfl

theorem trimEnd_append {blanks : List Char} (hb : ∀ c ∈ blanks, isBlank c = true)
    (cs : List Char) : trimEnd (cs ++ blanks) = trimEnd cs := by
  have hreverse : ∀ c ∈ blanks.reverse, isBlank c = true :=
    fun c hc => hb c (List.mem_reverse.1 hc)
  unfold trimEnd
  rw [List.reverse_append, skipBlanks_append hreverse]

/-- **Blanks around a text are no part of what is left of it.** -/
theorem trim_append {front back : List Char} (hfront : ∀ c ∈ front, isBlank c = true)
    (hback : ∀ c ∈ back, isBlank c = true) (cs : List Char) :
    trim (front ++ (cs ++ back)) = trim cs := by
  calc trim (front ++ (cs ++ back))
      = trim (cs ++ back) := congrArg trimEnd (skipBlanks_append hfront (cs ++ back))
    _ = skipBlanks (trimEnd (cs ++ back)) := (skipBlanks_trimEnd (cs ++ back)).symm
    _ = skipBlanks (trimEnd cs) := congrArg skipBlanks (trimEnd_append hback cs)
    _ = trim cs := skipBlanks_trimEnd cs

/-- A text without the blanks around it: it has none at its own ends, and there is nothing else. -/
def IsTrimmed (cs core : List Char) : Prop :=
  (∃ front back, (∀ c ∈ front, isBlank c = true) ∧ (∀ c ∈ back, isBlank c = true) ∧
    cs = front ++ (core ++ back)) ∧
  (∀ c ∈ core.head?, isBlank c = false) ∧ ∀ c ∈ core.getLast?, isBlank c = false

/-- A text without blanks at its ends stays as it is. -/
theorem trim_eq_self {core : List Char} (hhead : ∀ c ∈ core.head?, isBlank c = false)
    (hlast : ∀ c ∈ core.getLast?, isBlank c = false) : trim core = core := by
  have hfront : skipBlanks core = core := by
    cases core with
    | nil => rfl
    | cons c cs => exact skipBlanks_cons_of_not_blank (hhead c rfl) cs
  have hend : core.rdropWhile isBlank = core := by
    refine List.rdropWhile_eq_self_iff.2 fun hne => ?_
    rw [hlast _ (List.getLast_mem_getLast? hne)]
    exact Bool.false_ne_true
  rw [trim_eq_trimEnd, hfront, trimEnd_eq_rdropWhile, hend]

theorem isTrimmed_trim (cs : List Char) : IsTrimmed cs (trim cs) := by
  obtain ⟨front, hfront, hcs⟩ := exists_blanks cs
  have hsplit := List.rdropWhile_append_rtakeWhile (p := isBlank) (l := skipBlanks cs)
  rw [← trimEnd_eq_rdropWhile, ← trim_eq_trimEnd] at hsplit
  refine ⟨⟨front, (skipBlanks cs).rtakeWhile isBlank, hfront, ?_, ?_⟩, ?_, ?_⟩
  · exact fun c hc => List.mem_rtakeWhile_imp hc
  · rw [hsplit]
    exact hcs
  · intro c hc
    rw [← skipBlanks_trimEnd] at hc
    exact isBlank_head_skipBlanks hc
  · intro c hc
    obtain ⟨hne, rfl⟩ := List.mem_getLast?_eq_getLast hc
    exact Bool.eq_false_iff.2 (List.rdropWhile_last_not isBlank (skipBlanks cs) hne)

/-- Nothing else is left of a text than the text without the blanks around it. -/
theorem trim_eq_iff {cs core : List Char} : trim cs = core ↔ IsTrimmed cs core := by
  refine ⟨fun h => h ▸ isTrimmed_trim cs, fun h => ?_⟩
  obtain ⟨⟨front, back, hfront, hback, rfl⟩, hhead, hlast⟩ := h
  rw [trim_append hfront hback, trim_eq_self hhead hlast]

end QueryWindow
