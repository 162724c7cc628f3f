/-!
# QueryWindow.Decimal.Word

**The limits of machine words.** Years, Unix seconds, lookbacks and the integers of JSON are bounded
by what a word of 32 or 64 bits can hold, with or without a sign.
-/

namespace QueryWindow

/-- The least number that a word of 64 bits cannot hold. -/
def wordLimit : Nat := 18446744073709551616

/-- The least number that a signed word of 64 bits cannot hold. -/
def signedWordLimit : Nat := 9223372036854775808

/-- The least number that a signed word of 32 bits cannot hold. -/
def signedHalfWordLimit : Nat := 2147483648

end QueryWindow
