import Mathlib.Algebra.Group.Nat.Defs
import Mathlib.Data.List.Induction
import QueryWindow.Text.Digits

/-!
# QueryWindow.Proofs.Text.Numerals

**Numbers next to other text.** A number that is small enough fills its width exactly when it is
padded with zeros (`Digits.length_padded`), and the zeros do not change what it means
(`Digits.value_padded`). Where numbers stand next to one another this is all that keeps them apart;
elsewhere a row of digits goes on as far as there are digits (`Digits.takeWhile_append`).
-/

namespace QueryWindow.Digits

/-! ### Rows of digits -/

section Rows

variable {digits rest : List Char}

/-- All digits are taken from a text, and nothing of what follows them. -/
theorem takeWhile_append (hd : ∀ c ∈ digits, c.isDigit = true)
    (hr : ∀ c ∈ rest.head?, c.isDigit = false) :
    (digits ++ rest).takeWhile Char.isDigit = digits := by
  rw [List.takeWhile_append_of_pos hd]
  cases rest with
  | nil => simp
  | cons c rest => simp [hr c rfl]

theorem dropWhile_append (hd : ∀ c ∈ digits, c.isDigit = true)
    (hr : ∀ c ∈ rest.head?, c.isDigit = false) :
    (digits ++ rest).dropWhile Char.isDigit = rest := by
  have hwhole := @List.takeWhile_append_dropWhile _ Char.isDigit (digits ++ rest)
  rw [takeWhile_append hd hr] at hwhole
  exact List.append_cancel_left hwhole

end Rows

/-- A row of digits stands for less than a one followed by as many zeros. -/
theorem value_lt_pow {cs : List Char} (h : ∀ c ∈ cs, c.isDigit = true) :
    value 10 cs < 10 ^ cs.length := by
  induction cs using List.reverseRecOn with
  | nil => decide
  | append_singleton cs c ih =>
      have hrow := ih fun d hd => h d (List.mem_append_left _ hd)
      have hdigit : valueOfDigit c < 10 := by
        have hc := h c (by simp)
        simp only [Char.isDigit, Bool.and_eq_true, decide_eq_true_eq] at hc
        have hnine : c.toNat ≤ 57 := hc.2
        rw [valueOfDigit, if_pos (h c (by simp))]
        omega
      rw [value_concat, List.length_append, List.length_singleton, Nat.pow_succ]
      omega

/-! ### Leading zeros -/

/-- No number but zero starts with a zero. -/
theorem ofNat_ne_zero_cons (n : Nat) (c : Char) (cs : List Char) :
    ofNat 10 n ≠ '0' :: c :: cs := by
  induction n using Nat.strongRecOn generalizing c cs with
  | _ n ih =>
    unfold ofNat
    split
    · rename_i hn
      intro heq
      -- A zero in front of the last digit would be all of the number without that digit.
      cases hdigits : ofNat 10 (n / 10) with
      | nil => exact ofNat_ne_nil 10 _ hdigits
      | cons d ds =>
          rw [hdigits] at heq
          obtain ⟨rfl, -⟩ := List.cons.inj heq
          cases ds with
          | nil =>
              have hvalue : value 10 (ofNat 10 (n / 10)) = n / 10 :=
                value_ofNat (by decide) (by decide) _
              rw [hdigits] at hvalue
              have hzero : value 10 ['0'] = 0 := rfl
              omega
          | cons e es => exact ih (n / 10) (by omega) e es hdigits
    · simp

/-! ### Numbers of a fixed width -/

theorem value_zeros_append (count : Nat) (cs : List Char) :
    value 10 (List.replicate count '0' ++ cs) = value 10 cs := by
  induction count with
  | zero => rfl
  | succ count ih => rw [← ih]; rfl

theorem length_ofNat_le {n width : Nat} (hw : 0 < width) (h : n < 10 ^ width) :
    (ofNat 10 n).length ≤ width := by
  induction width generalizing n with
  | zero => omega
  | succ width ih =>
      unfold ofNat
      split
      · rename_i hn
        have hdiv : n / 10 < 10 ^ width := by
          rw [Nat.pow_succ] at h
          omega
        have hpos : 0 < width := by
          refine Nat.pos_of_ne_zero fun hzero => ?_
          subst hzero
          omega
        have := ih hpos hdiv
        simp only [List.length_append, List.length_singleton]
        omega
      · simp

theorem length_padded {width n : Nat} (hw : 0 < width) (h : n < 10 ^ width) :
    (padded width n).length = width := by
  have := length_ofNat_le hw h
  rw [padded, List.length_leftpad]
  omega

theorem value_padded (width n : Nat) : value 10 (padded width n) = n := by
  rw [padded, List.leftpad, value_zeros_append, value_ofNat (by decide) (by decide)]

theorem isDigit_of_mem_padded {width n : Nat} {c : Char} (h : c ∈ padded width n) :
    c.isDigit = true := by
  rw [padded, List.leftpad] at h
  rcases List.mem_append.1 h with h | h
  · rw [List.eq_of_mem_replicate h]
    decide
  · exact isDigit_of_mem_ofNat h

theorem padded_ne_nil (width n : Nat) : padded width n ≠ [] := by
  rw [padded, List.leftpad]
  exact List.append_ne_nil_of_right_ne_nil _ (ofNat_ne_nil 10 n)

end QueryWindow.Digits
