import QueryWindow.Decimal.Binary64
import QueryWindow.Text.Digits

/-!
# QueryWindow.Decimal.Shortest

**The fewest decimal digits that read back as the same number.** Every binary number stands for an
interval of reals, those that round to it. `Shortest.decimal` looks for the coarsest decimal grid
with a point in that interval, and there takes the point nearest to the number.

It is enough to look at the two neighbours of the number on each grid: if any point of a grid lies
in the interval, one of these does.
-/

namespace QueryWindow.Shortest

/-- A decimal number, `digits * 10 ^ exponent`. -/
structure Decimal where
  /-- The digits, as one number. -/
  digits : Nat
  /-- The power of ten of the last digit. -/
  exponent : Int
  deriving DecidableEq

/-- Numerator and denominator of a decimal number. -/
def Decimal.toQuotient (d : Decimal) : Nat × Nat :=
  (d.digits * Digits.weight 10 d.exponent.toNat, Digits.weight 10 (-d.exponent).toNat)

/-- The order of two quotients. -/
def compareQuotients (a b : Nat × Nat) : Ordering :=
  compare (a.1 * b.2) (b.1 * a.2)

/-- The ends of the interval of reals that round to a number, each as a quotient. Below a power of
two the neighbours stand closer. -/
def interval (x : Binary64) : (Nat × Nat) × (Nat × Nat) :=
  -- Counted in quarters of the step above the number; the step below may be half as long.
  let below := if x.mantissa = Binary64.leastFullMantissa ∧ -1074 < x.exponent then 1 else 2
  (Binary64.scale (4 * x.mantissa - below) 1 (x.exponent - 2),
    Binary64.scale (4 * x.mantissa + 2) 1 (x.exponent - 2))

/-- A decimal number rounds to a number; the ends of the interval do so for an even mantissa. -/
def readsBack (x : Binary64) (d : Decimal) : Bool :=
  let (least, greatest) := interval x
  let low := compareQuotients least d.toQuotient
  let high := compareQuotients d.toQuotient greatest
  if x.mantissa % 2 = 0 then low != .gt && high != .gt else low == .lt && high == .lt

/-- The greatest power of ten that a positive quotient reaches. -/
def log10 (num den : Nat) : Int :=
  if den ≤ num then (Digits.ofNat 10 (num / den)).length - 1
  else
    match (List.range 400).find? fun n => den ≤ num * Digits.weight 10 n with
    | some n => -n
    | none => 0

/-- The points below and above a number on the grid of a power of ten. -/
def neighbours (x : Binary64) (exponent : Int) : Decimal × Decimal :=
  let (num, den) := x.toQuotient
  let below := num * Digits.weight 10 (-exponent).toNat / (den * Digits.weight 10 exponent.toNat)
  (⟨below, exponent⟩, ⟨below + 1, exponent⟩)

/-- The distances from a number to its neighbours on a grid, compared. -/
def compareDistances (x : Binary64) (exponent : Int) : Ordering :=
  let (num, den) := x.toQuotient
  let num := num * Digits.weight 10 (-exponent).toNat
  let den := den * Digits.weight 10 exponent.toNat
  compare (2 * (num % den)) den

/-- The neighbour on a grid that reads back, and of two the nearer, and of two as near the even
one. -/
def onGrid? (x : Binary64) (exponent : Int) : Option Decimal :=
  let (below, above) := neighbours x exponent
  match readsBack x below, readsBack x above with
  | true, false => some below
  | false, true => some above
  | false, false => none
  | true, true =>
    match compareDistances x exponent with
    | .lt => some below
    | .gt => some above
    | .eq => some (if below.digits % 2 = 0 then below else above)

/-- The decimal number of the fewest digits that reads back; seventeen are always enough. -/
def decimal (x : Binary64) : Decimal :=
  if x.mantissa = 0 then ⟨0, 0⟩
  else
    let (num, den) := x.toQuotient
    let greatest := log10 num den
    ((List.range 17).findSome? fun (n : Nat) => onGrid? x (greatest - n)).getD ⟨0, 0⟩

/-- The digits of a number without the zeros at their end, and the power of ten of the last one. -/
def significant (d : Decimal) : List Char × Int :=
  let all := Digits.ofNat 10 d.digits
  let kept := (all.reverse.dropWhile (· == '0')).reverse
  (kept, d.exponent + (all.length - kept.length : Nat))

/-- An exponent with its letter and its sign. -/
def exponentText (n : Int) : List Char :=
  'e' :: (if n < 0 then '-' else '+') :: Digits.ofNat 10 n.natAbs

/-- The text of a number: with a point and all its places from the fifth after the point to the
sixteenth before it, otherwise with one digit before the point and an exponent. -/
def text (x : Binary64) : List Char :=
  if x.mantissa = 0 then ['0', '.', '0']
  else
    let (digits, exponent) := significant (decimal x)
    let point := digits.length + exponent
    if 0 ≤ exponent ∧ point ≤ 16 then
      digits ++ List.replicate exponent.toNat '0' ++ ['.', '0']
    else if 0 < point ∧ point ≤ 16 then
      digits.take point.toNat ++ '.' :: digits.drop point.toNat
    else if -5 < point ∧ point ≤ 0 then
      '0' :: '.' :: List.replicate (-point).toNat '0' ++ digits
    else
      match digits with
      | [digit] => digit :: exponentText (point - 1)
      | _ => digits.take 1 ++ '.' :: digits.drop 1 ++ exponentText (point - 1)

end QueryWindow.Shortest
