/-!
# QueryWindow.Text.Digits

**Numbers as digits.** `Digits.ofNat` writes a number in a base up to 16 without leading zeros,
`Digits.value` reads one, and `Digits.value_ofNat` says that reading gives back what was written.
-/

namespace QueryWindow.Digits

/-- The digits of a number, the first not zero unless the number is. -/
def ofNat (base n : Nat) : List Char :=
  if 2 ≤ base ∧ base ≤ n then ofNat base (n / base) ++ [Nat.digitChar (n % base)]
  else [Nat.digitChar n]
termination_by n
decreasing_by exact Nat.div_lt_self (by omega) (by omega)

/-- The number a digit stands for; the letters from `a` stand for ten and more. -/
def valueOfDigit (c : Char) : Nat :=
  if c.isDigit then c.toNat - 48 else c.toNat - 87

/-- The number a row of digits stands for. -/
def value (base : Nat) (cs : List Char) : Nat :=
  cs.foldl (fun n c => n * base + valueOfDigit c) 0

/-- What a one is worth that has so many places after it. -/
def weight (base places : Nat) : Nat := Nat.pow base places

theorem value_concat (base : Nat) (cs : List Char) (c : Char) :
    value base (cs ++ [c]) = value base cs * base + valueOfDigit c := by
  simp [value]

theorem valueOfDigit_digitChar : ∀ n < 16, valueOfDigit (Nat.digitChar n) = n := by
  decide

theorem isDigit_digitChar : ∀ n < 10, (Nat.digitChar n).isDigit = true := by
  decide

/-- Reading the digits of a number gives the number. -/
theorem value_ofNat {base : Nat} (hb : 2 ≤ base) (hb' : base ≤ 16) (n : Nat) :
    value base (ofNat base n) = n := by
  induction n using Nat.strongRecOn with
  | _ n ih =>
    unfold ofNat
    split
    · rename_i h
      rw [value_concat, ih _ (Nat.div_lt_self (by omega) (by omega)),
        valueOfDigit_digitChar _ (Nat.lt_of_lt_of_le (Nat.mod_lt _ (by omega)) hb'), Nat.mul_comm]
      exact Nat.div_add_mod n base
    · rename_i h
      simpa [value] using valueOfDigit_digitChar n (by omega)

/-- A number in base ten has decimal digits only. -/
theorem isDigit_of_mem_ofNat {n : Nat} {c : Char} (h : c ∈ ofNat 10 n) : c.isDigit = true := by
  induction n using Nat.strongRecOn with
  | _ n ih =>
    unfold ofNat at h
    split at h
    · rename_i hn
      rcases List.mem_append.1 h with h | h
      · exact ih _ (Nat.div_lt_self (by omega) (by omega)) h
      · rw [List.mem_singleton.1 h]
        exact isDigit_digitChar _ (by omega)
    · rename_i hn
      rw [List.mem_singleton.1 h]
      exact isDigit_digitChar _ (by omega)

theorem ofNat_ne_nil (base n : Nat) : ofNat base n ≠ [] := by
  unfold ofNat
  split <;> simp

/-- A number in base ten, filled up with zeros to a width. -/
def padded (width n : Nat) : List Char := (ofNat 10 n).leftpad width '0'

/-- A number in base ten with a minus sign if it is negative. -/
def ofInt (n : Int) : List Char :=
  if n < 0 then '-' :: ofNat 10 n.natAbs else ofNat 10 n.natAbs

end QueryWindow.Digits
