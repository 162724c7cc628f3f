import QueryWindow.Proofs.Formats.Standard

/-!
# QueryWindow.Proofs.Formats.Order

**The order of the standard patterns does not matter.** No text is accepted by two of them
(`Formats.exclusive_standard`), so that trying them in another order, or more than once, finds the
same (`Formats.Reorders.find?_eq`).

Nor do patterns matter that no text can fit, those with an invalid specifier. They may stand
anywhere among the others.
-/

namespace QueryWindow

/-! ### Patterns that no text fits -/

namespace Pattern

/-- The pattern has a specifier that is none: an unknown one, or one that the pattern ends
within. -/
def IsBroken (pattern : String) : Prop := .invalid ∈ items pattern

instance (pattern : String) : Decidable (IsBroken pattern) :=
  inferInstanceAs (Decidable (_ ∈ _))

example : IsBroken "%H:%M%" ∧ IsBroken "%Q" ∧ ¬ IsBroken "%H:%M%%" := by decide

variable {pattern : String}

/-- Whatever is asked for, a broken pattern does not find it. -/
theorem IsBroken.toOption_eq_none {α : Type} (h : IsBroken pattern)
    (use : Fields → Except ReadError α) (cs : List Char) :
    ((readFields (items pattern) cs).bind use).toOption = none := by
  rw [Option.eq_none_iff_forall_ne_some]
  intro a hfound
  obtain ⟨fields, hread, -⟩ := exceptBind_eq_ok.1 (toOption_eq_some.1 hfound)
  exact readFields_ne_ok_of_invalid_mem h cs fields hread

end Pattern

theorem Aim.not_accepts_of_isBroken {pattern : String} (h : Pattern.IsBroken pattern)
    (cs : List Char) (aim : Aim) : ¬ aim.Accepts pattern cs := by
  cases aim with
  | timestamp => simp [Accepts, Pattern.timestamp?, h.toOption_eq_none]
  | date => simp [Accepts, Pattern.date?, h.toOption_eq_none]
  | time => simp [Accepts, Pattern.time?, h.toOption_eq_none]

/-! ### Trying the patterns in another order -/

namespace Formats

variable {formats other : Formats} {cs : List Char}

/-- The formats have the patterns of others for every aim, in any order and however often, and
besides them only broken ones. -/
def Reorders (formats other : Formats) : Prop :=
  ∀ aim, (∀ pattern ∈ other.patterns aim, pattern ∈ formats.patterns aim) ∧
    ∀ pattern ∈ formats.patterns aim, pattern ∈ other.patterns aim ∨ Pattern.IsBroken pattern

/-- A pattern that accepts something is none of the broken ones. -/
theorem Reorders.mem_patterns (h : formats.Reorders other) {aim : Aim} {pattern : String}
    (hmem : pattern ∈ formats.patterns aim) (haccepts : aim.Accepts pattern cs) :
    pattern ∈ other.patterns aim :=
  ((h aim).2 pattern hmem).resolve_right fun hbroken =>
    Aim.not_accepts_of_isBroken hbroken cs aim haccepts

theorem Reorders.exclusive (h : formats.Reorders other) (hother : other.Exclusive cs) :
    formats.Exclusive cs :=
  fun aim aim' pattern hmem pattern' hmem' haccepts haccepts' =>
    hother aim aim' pattern (h.mem_patterns hmem haccepts) pattern'
      (h.mem_patterns hmem' haccepts') haccepts haccepts'

/-- Exclusive attempts find the same in any order. -/
theorem Reorders.find?_eq (h : formats.Reorders other) (hother : other.Exclusive cs)
    (reference : Timestamp) : formats.find? cs reference = other.find? cs reference := by
  ext t
  rw [find?_eq_some_iff (h.exclusive hother), find?_eq_some_iff hother]
  constructor
  · intro hfound
    obtain ⟨aim, pattern, hmem, hread⟩ := hfound
    exact ⟨aim, pattern, h.mem_patterns hmem (Aim.accepts_of_read? hread), hread⟩
  · intro hfound
    obtain ⟨aim, pattern, hmem, hread⟩ := hfound
    exact ⟨aim, pattern, (h aim).1 pattern hmem, hread⟩

/-- **Only which patterns there are counts, not where they stand.** At most one of the standard
patterns accepts a text, once the blanks around it are gone. Formats that have the standard patterns
in another order, or several times, and among them any patterns with invalid specifiers, therefore
make the same of every text: the same timestamp, or the same error. -/
theorem parse_reordered :
    (∀ (text : String) (aim aim' : Aim), ∀ pattern ∈ standard.patterns aim,
      ∀ other ∈ standard.patterns aim', aim.Accepts pattern (trim text.toList) →
        aim'.Accepts other (trim text.toList) → aim = aim' ∧ pattern = other) ∧
    (∀ formats : Formats, formats.Reorders standard → ∀ (text : String) (reference : Timestamp),
      formats.parse text reference = standard.parse text reference) := by
  constructor
  · exact fun text => exclusive_standard (trim text.toList)
  · intro formats h text reference
    have hfind := h.find?_eq (exclusive_standard (trim text.toList)) reference
    unfold parse
    simp only [hfind]

/-- The standard patterns in reverse, some of them twice, with broken patterns in front. -/
def reversedFormats : Formats :=
  ⟨["%", "%Y-%m-%d %H:%M", "%Q %Y", applicationPattern, "%Y-%m-%d %H:%M"], ["%-", "%Y-%m-%d"],
    ["%:", "%H:%M", "%H:%M:%S", "%H:%M"]⟩

theorem parse_reordered_reversed :
    reversedFormats.Reorders standard ∧ Aim.time.Accepts "%H:%M" (trim " 9:05 ".toList) ∧
      (∀ aim, ∀ pattern ∈ standard.patterns aim, aim.Accepts pattern (trim " 9:05 ".toList) →
        aim = .time ∧ pattern = "%H:%M") ∧
      reversedFormats.parse " 9:05 " ⟨⟨2024, 1, 3⟩, ⟨0, 0⟩⟩ = .ok ⟨⟨2024, 1, 3⟩, ⟨32700, 0⟩⟩ := by
  have hreorders : reversedFormats.Reorders standard := by
    intro aim
    cases aim <;> decide
  have haccepts : Aim.time.Accepts "%H:%M" (trim " 9:05 ".toList) := rfl
  refine ⟨hreorders, haccepts, fun aim pattern hmem h => ?_, ?_⟩
  · exact parse_reordered.1 " 9:05 " aim .time pattern hmem "%H:%M" (by decide) h haccepts
  · rw [parse_reordered.2 reversedFormats hreorders]
    rfl

end Formats

end QueryWindow
