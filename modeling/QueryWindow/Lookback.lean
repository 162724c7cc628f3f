import QueryWindow.Decimal.Word
import QueryWindow.Text.Digits

/-!
# QueryWindow.Lookback

**How far back the default window reaches**, in whole milliseconds. A lookback is a word of 64 bits.
The length of time that it stands for is bounded by what a signed word can count, so that the
longest lookbacks all reach back equally far.
-/

namespace QueryWindow

/-- A number of milliseconds to look back. -/
structure Lookback where
  /-- The milliseconds. -/
  millis : UInt64
  deriving DecidableEq

namespace Lookback

/-- Five minutes. -/
def standard : Lookback := ⟨5 * 60 * 1000⟩

instance : Inhabited Lookback := ⟨standard⟩

instance : LT Lookback where
  lt a b := a.millis < b.millis

instance : LE Lookback where
  le a b := a.millis ≤ b.millis

instance (a b : Lookback) : Decidable (a < b) :=
  inferInstanceAs (Decidable (a.millis < b.millis))

instance (a b : Lookback) : Decidable (a ≤ b) :=
  inferInstanceAs (Decidable (a.millis ≤ b.millis))

/-- The greatest number of milliseconds that is told apart from greater ones. -/
def longestMillis : Nat := signedWordLimit - 1

/-- The nanoseconds of a millisecond. -/
def nanosPerMilli : Nat := 1000000

/-- The length of time in nanoseconds. -/
def nanos (lookback : Lookback) : Nat :=
  min lookback.millis.toNat longestMillis * nanosPerMilli

/-- The whole milliseconds of a number of seconds and nanoseconds, as far as a word can hold
them. -/
def ofDuration (seconds nanos : Nat) : Lookback :=
  ⟨UInt64.ofNat (min (seconds * 1000 + nanos / nanosPerMilli) (wordLimit - 1))⟩

/-- The text of a lookback. -/
def text (lookback : Lookback) : String :=
  String.ofList (Digits.ofNat 10 lookback.millis.toNat ++ ['m', 's'])

theorem ofDuration_millis (seconds nanos : Nat) : (ofDuration seconds nanos).millis.toNat =
    min (seconds * 1000 + nanos / nanosPerMilli) (wordLimit - 1) := by
  unfold ofDuration
  exact UInt64.toNat_ofNat_of_lt' (by simp only [UInt64.size, wordLimit]; omega)

end Lookback

end QueryWindow
