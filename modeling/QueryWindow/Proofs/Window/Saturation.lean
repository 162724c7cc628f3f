import QueryWindow.Proofs.Window.Exact

/-!
# QueryWindow.Proofs.Window.Saturation

**Lengths of time become lookbacks, and lookbacks lengths of time, in order.** A span of seconds and
nanoseconds is cut to whole milliseconds, which are counted in a word of 128 bits and kept in one of
64; a lookback is counted in a signed word of 64 bits before it becomes a length of time again.
Neither count overflows (`Span.toNat_millis`, `Lookback.toInt_signedMillis`), so that each way is a
quotient or a product below a bound. Both are monotone for that reason alone, and together they lose
less than a millisecond as long as the second bound is not reached.
-/

namespace QueryWindow

/-- A length of time: a word of seconds, and the nanoseconds since the last of them. -/
structure Span where
  /-- The whole seconds. -/
  seconds : UInt64
  /-- The nanoseconds beyond the whole seconds. -/
  nanos : Nat
  /-- The nanoseconds make no second. -/
  nanos_lt : nanos < nanosPerSecond
  deriving DecidableEq

namespace Span

/-- The length in nanoseconds. -/
def total (span : Span) : Nat := span.seconds.toNat * nanosPerSecond + span.nanos

/-- Spans are compared by second, then by nanosecond. -/
instance : LE Span where
  le a b := a.seconds < b.seconds ∨ (a.seconds = b.seconds ∧ a.nanos ≤ b.nanos)

theorem le_def (a b : Span) :
    a ≤ b ↔ a.seconds < b.seconds ∨ (a.seconds = b.seconds ∧ a.nanos ≤ b.nanos) := Iff.rfl

instance (a b : Span) : Decidable (a ≤ b) :=
  decidable_of_iff' _ (le_def a b)

theorem le_iff_total_le {a b : Span} : a ≤ b ↔ a.total ≤ b.total := by
  have ha := a.nanos_lt
  have hb := b.nanos_lt
  rw [le_def, UInt64.lt_iff_toNat_lt, ← UInt64.toNat_inj, total, total]
  simp only [nanosPerSecond] at ha hb ⊢
  omega

/-- The whole milliseconds, in a word of 128 bits. -/
def millis (span : Span) : BitVec 128 :=
  span.seconds.toBitVec.setWidth 128 * 1000#128 +
    BitVec.ofNat 128 (span.nanos / Lookback.nanosPerMilli)

theorem total_div_nanosPerMilli (span : Span) : span.total / Lookback.nanosPerMilli =
    span.seconds.toNat * 1000 + span.nanos / Lookback.nanosPerMilli := by
  simp only [total, nanosPerSecond, Lookback.nanosPerMilli]
  omega

/-- **The milliseconds of a span fit into 128 bits.** -/
theorem toNat_millis (span : Span) : span.millis.toNat = span.total / Lookback.nanosPerMilli := by
  have hseconds := span.seconds.toNat_lt
  have hnanos := span.nanos_lt
  rw [total_div_nanosPerMilli]
  simp only [nanosPerSecond] at hnanos
  simp only [millis, BitVec.toNat_add, BitVec.toNat_mul, BitVec.toNat_setWidth, BitVec.toNat_ofNat,
    UInt64.toNat_toBitVec, Lookback.nanosPerMilli]
  omega

end Span

namespace Lookback

/-! ### From spans to lookbacks -/

/-- The whole milliseconds of a span, as far as a word can hold them. -/
def ofSpan (span : Span) : Lookback := ofDuration span.seconds.toNat span.nanos

theorem toNat_millis_ofSpan (span : Span) : (ofSpan span).millis.toNat =
    min (span.total / nanosPerMilli) (wordLimit - 1) := by
  rw [Span.total_div_nanosPerMilli]
  exact ofDuration_millis _ _

theorem ofSpan_mono {a b : Span} (h : a ≤ b) : ofSpan a ≤ ofSpan b := by
  rw [le_iff_toNat_le, toNat_millis_ofSpan, toNat_millis_ofSpan]
  have hquotient : a.total / nanosPerMilli ≤ b.total / nanosPerMilli :=
    Nat.div_le_div_right (Span.le_iff_total_le.1 h)
  omega

/-! ### From lookbacks to lengths of time -/

/-- The milliseconds, as far as a signed word can hold them. -/
def signedMillis (lookback : Lookback) : Int64 :=
  if lookback.millis.toNat ≤ longestMillis then lookback.millis.toInt64 else Int64.maxValue

/-- **The milliseconds of a lookback never turn negative.** -/
theorem toInt_signedMillis (lookback : Lookback) : lookback.signedMillis.toInt =
    (min lookback.millis.toNat longestMillis : Nat) := by
  unfold signedMillis
  split
  · rename_i hfits
    have hsign : 2 * lookback.millis.toBitVec.toNat < 2 ^ 64 := by
      simp only [longestMillis, signedWordLimit] at hfits
      rw [UInt64.toNat_toBitVec]
      omega
    rw [Nat.min_eq_left hfits]
    exact BitVec.toInt_eq_toNat_of_lt hsign
  · rename_i hlong
    rw [Nat.min_eq_right (Nat.le_of_not_le hlong)]
    rfl

theorem nanos_mono {shorter longer : Lookback} (h : shorter ≤ longer) :
    shorter.nanos ≤ longer.nanos := by
  have hmillis := le_iff_toNat_le.1 h
  simp only [nanos]
  refine Nat.mul_le_mul_right _ ?_
  omega

theorem nanos_of_le {lookback : Lookback} (h : lookback.millis.toNat ≤ longestMillis) :
    lookback.nanos = lookback.millis.toNat * nanosPerMilli := by
  rw [nanos, Nat.min_eq_left h]

theorem nanos_of_ge {lookback : Lookback} (h : longestMillis ≤ lookback.millis.toNat) :
    lookback.nanos = longestMillis * nanosPerMilli := by
  rw [nanos, Nat.min_eq_right h]

theorem nanos_lt_nanos_iff {shorter longer : Lookback}
    (hshorter : shorter.millis.toNat ≤ longestMillis)
    (hlonger : longer.millis.toNat ≤ longestMillis) :
    shorter.nanos < longer.nanos ↔ shorter < longer := by
  rw [nanos_of_le hshorter, nanos_of_le hlonger, lt_iff_toNat_lt]
  exact Nat.mul_lt_mul_right (by decide)

/-! ### There and back -/

/-- A span loses less than a millisecond if its milliseconds fit into a signed word. -/
theorem nanos_ofSpan {span : Span} (h : span.total / nanosPerMilli ≤ longestMillis) :
    (ofSpan span).nanos = span.total / nanosPerMilli * nanosPerMilli := by
  have hword : longestMillis ≤ wordLimit - 1 := by decide
  have hmillis := toNat_millis_ofSpan span
  rw [Nat.min_eq_left (Nat.le_trans h hword)] at hmillis
  rw [nanos_of_le (hmillis ▸ h), hmillis]

/-- **Conversions saturate, and keep the order.** A lookback has the whole milliseconds of the span
it is made from, or as many as a word can count, and it lasts as many milliseconds as it has, or as
many as a signed word can count. Longer spans make no shorter lookbacks, and longer lookbacks last
no shorter. A span whose milliseconds a signed word can count loses less than one of them on the
way; of two lookbacks up to that limit the longer one lasts longer, and all from there on last
equally long. -/
theorem ofSpan_saturates :
    (∀ span : Span, span.millis.toNat = span.total / 1000000 ∧
      (ofSpan span).millis.toNat = min (span.total / 1000000) (wordLimit - 1)) ∧
    (∀ lookback : Lookback,
      lookback.signedMillis.toInt = (min lookback.millis.toNat (signedWordLimit - 1) : Nat) ∧
      lookback.nanos = min lookback.millis.toNat (signedWordLimit - 1) * 1000000) ∧
    (∀ a b : Span, a ≤ b → ofSpan a ≤ ofSpan b) ∧
    (∀ shorter longer : Lookback, shorter ≤ longer → shorter.nanos ≤ longer.nanos) ∧
    (∀ span : Span, span.total < signedWordLimit * 1000000 →
      (ofSpan span).nanos ≤ span.total ∧ span.total - (ofSpan span).nanos < 1000000) ∧
    (∀ shorter longer : Lookback, shorter.millis.toNat ≤ signedWordLimit - 1 →
      longer.millis.toNat ≤ signedWordLimit - 1 →
      (shorter < longer ↔ shorter.nanos < longer.nanos)) ∧
    (∀ lookback : Lookback, signedWordLimit - 1 ≤ lookback.millis.toNat →
      lookback.nanos = (signedWordLimit - 1) * 1000000) := by
  refine ⟨fun span => ⟨span.toNat_millis, toNat_millis_ofSpan span⟩,
    fun lookback => ⟨toInt_signedMillis lookback, rfl⟩, fun a b => ofSpan_mono,
    fun shorter longer => nanos_mono, fun span hfits => ?_,
    fun shorter longer hshorter hlonger => (nanos_lt_nanos_iff hshorter hlonger).symm,
    fun lookback => nanos_of_ge⟩
  have hmillis : span.total / nanosPerMilli ≤ longestMillis :=
    Nat.le_sub_one_of_lt (Nat.div_lt_of_lt_mul (Nat.mul_comm _ _ ▸ hfits))
  rw [nanos_ofSpan hmillis]
  exact ⟨Nat.div_mul_le_self _ _, by simp only [nanosPerMilli]; omega⟩

/-- The longest span that a signed word of milliseconds holds loses its last 999999 nanoseconds. One
nanosecond more makes a longer lookback, which lasts no longer. -/
theorem ofSpan_saturates_signedWord :
    let longest : Span := ⟨9223372036854775, 807999999, by decide⟩
    let next : Span := ⟨9223372036854775, 808000000, by decide⟩
    longest.total < signedWordLimit * 1000000 ∧ longest.total - (ofSpan longest).nanos < 1000000 ∧
      longest ≤ next ∧ ofSpan longest ≤ ofSpan next ∧ ofSpan longest < ofSpan next ∧
      (ofSpan longest).nanos ≤ (ofSpan next).nanos ∧
      (ofSpan next).nanos = (signedWordLimit - 1) * 1000000 ∧
      (⟨1⟩ : Lookback).nanos < (ofSpan longest).nanos := by
  intro longest next
  obtain ⟨-, -, hspans, hnanos, hloss, horder, hlong⟩ := ofSpan_saturates
  have hfits : longest.total < signedWordLimit * 1000000 := by decide
  have hle : longest ≤ next := by decide
  have hlookbacks : ofSpan longest ≤ ofSpan next := hspans longest next hle
  refine ⟨hfits, (hloss longest hfits).2, hle, hlookbacks, by decide, hnanos _ _ hlookbacks,
    hlong (ofSpan next) (by decide), ?_⟩
  exact (horder ⟨1⟩ (ofSpan longest) (by decide) (by decide)).1 (by decide)

end Lookback

end QueryWindow
