import QueryWindow.Proofs.Window.Default

/-!
# QueryWindow.Proofs.Window.Exact

**Where the default window starts, to the nanosecond.** The bound on lookbacks never shows, since
it lies beyond the length of the calendar (`Timestamp.back?_nanos`): the start is as far back as the
lookback says in unbounded arithmetic, or it is the first timestamp.

The order of starts follows from one law. To look back further is to look back once more from where
one got to (`Window.start_lookingBack_add`), so that a longer lookback starts before a shorter one
for the same reason for which any window starts before it stops.
-/

namespace QueryWindow

namespace Lookback

variable {shorter longer : Lookback}

theorem le_iff_toNat_le : shorter ≤ longer ↔ shorter.millis.toNat ≤ longer.millis.toNat :=
  UInt64.le_iff_toNat_le

theorem lt_iff_toNat_lt : shorter < longer ↔ shorter.millis.toNat < longer.millis.toNat :=
  UInt64.lt_iff_toNat_lt

/-- What a longer lookback has more than a shorter one. -/
def rest (longer shorter : Lookback) : Lookback := ⟨longer.millis - shorter.millis⟩

theorem millis_rest (h : shorter ≤ longer) : longer.millis.toNat =
    shorter.millis.toNat + (longer.rest shorter).millis.toNat := by
  have hle := le_iff_toNat_le.1 h
  rw [rest, UInt64.toNat_sub_of_le _ _ h]
  omega

end Lookback

theorem Date.calendar_length : last.dayNumber - first.dayNumber < 200000000 := by decide

/-- **The bound on lookbacks never shows.** All that it affects reach back before the calendar. -/
theorem Timestamp.back?_nanos {t : Timestamp} (ht : t.Representable) (lookback : Lookback) :
    t.back? lookback.nanos = t.back? (lookback.millis.toNat * Lookback.nanosPerMilli) := by
  by_cases hbound : lookback.millis.toNat ≤ Lookback.longestMillis
  · rw [Lookback.nanos, Nat.min_eq_left hbound]
  · have hlast := Date.dayNumber_le_last ht.1
    have hlength := Date.calendar_length
    have hpast : ∀ nanos, Lookback.longestMillis * Lookback.nanosPerMilli ≤ nanos →
        t.back? nanos = none := by
      intro nanos hnanos
      rw [back?_eq_none_iff ht, instant_first]
      have := (instant_bounds ht).2
      simp only [nanosPerDay, secondsPerDay, nanosPerSecond, Lookback.longestMillis,
        signedWordLimit, Lookback.nanosPerMilli] at this hnanos ⊢
      omega
    have hle : Lookback.longestMillis ≤ lookback.millis.toNat := Nat.le_of_not_le hbound
    rw [hpast _ (Nat.mul_le_mul_right _ hle), hpast]
    rw [Lookback.nanos, Nat.min_eq_right hle]

namespace Window

variable {now : Timestamp}

theorem start_lookingBack_eq (hv : now.Representable) (lookback : Lookback) :
    (lookingBack now lookback).start =
      (now.back? (lookback.millis.toNat * Lookback.nanosPerMilli)).getD Timestamp.first := by
  rw [← Timestamp.back?_nanos hv]
  rfl

/-! ### Starts in order -/

theorem start_lookingBack_eq_iff (hv : now.Representable) (lookback : Lookback) :
    (lookingBack now lookback).start = now ↔
      lookback.millis.toNat = 0 ∨ now = Timestamp.first := by
  constructor
  · intro hsame
    by_contra hnot
    obtain ⟨hzero, hfirst⟩ := not_or.1 hnot
    have hlt := (start_lookingBack_lt_iff lookback hv).2
      ⟨(Timestamp.first_le hv.1).resolve_left hfirst, Nat.pos_of_ne_zero hzero⟩
    rw [hsame] at hlt
    exact Timestamp.lt_irrefl now hlt
  · intro h
    rw [lookingBack_empty hv h]

theorem start_lookingBack_le (hv : now.Representable) (lookback : Lookback) :
    (lookingBack now lookback).start ≤ now := by
  rw [Timestamp.le_def]
  by_cases h : lookback.millis.toNat = 0 ∨ now = Timestamp.first
  · exact Or.inl ((start_lookingBack_eq_iff hv lookback).2 h)
  · obtain ⟨hzero, hfirst⟩ := not_or.1 h
    exact Or.inr ((start_lookingBack_lt_iff lookback hv).2
      ⟨(Timestamp.first_le hv.1).resolve_left hfirst, Nat.pos_of_ne_zero hzero⟩)

/-- **To look back further is to look back once more**, from where one got to. -/
theorem start_lookingBack_add {shorter longer : Lookback} (hv : now.Representable)
    (h : shorter ≤ longer) : (lookingBack now longer).start =
      (lookingBack (lookingBack now shorter).start (longer.rest shorter)).start := by
  rw [start_lookingBack_eq hv longer, Lookback.millis_rest h, Nat.add_mul,
    start_lookingBack_eq hv shorter]
  cases hback : now.back? (shorter.millis.toNat * Lookback.nanosPerMilli) with
  | none =>
      -- Both stop at the first timestamp, from where no step leads back.
      rw [Timestamp.back?_add_eq_none hv hback, Option.getD_none,
        lookingBack_empty Timestamp.first_valid.representable (Or.inr rfl)]
  | some start =>
      rw [Timestamp.back?_add hback, Option.getD_some,
        start_lookingBack_eq (Timestamp.representable_of_back? hv hback)]

theorem start_lookingBack_antitone {shorter longer : Lookback} (hv : now.Representable)
    (h : shorter ≤ longer) :
    (lookingBack now longer).start ≤ (lookingBack now shorter).start := by
  rw [start_lookingBack_add hv h]
  exact start_lookingBack_le (representable_start_lookingBack shorter hv) _

theorem start_lookingBack_lt_start {shorter longer : Lookback} (hv : now.Representable)
    (h : shorter < longer) (hfirst : (lookingBack now shorter).start ≠ Timestamp.first) :
    (lookingBack now longer).start < (lookingBack now shorter).start := by
  have hlt := Lookback.lt_iff_toNat_lt.1 h
  have hle : shorter ≤ longer := Lookback.le_iff_toNat_le.2 (Nat.le_of_lt hlt)
  have hstart := representable_start_lookingBack shorter hv
  have hmore := Lookback.millis_rest hle
  rw [start_lookingBack_add hv hle]
  exact (start_lookingBack_lt_iff _ hstart).2
    ⟨(Timestamp.first_le hstart.1).resolve_left hfirst, by omega⟩

/-! ### Outside leap seconds -/

section NoLeap

variable (hv : now.Representable) (hleap : now.time.isLeap = false) (lookback : Lookback)
include hv hleap

/-- The start is the later one of the first timestamp and the instant so far back. -/
theorem instant_start_lookingBack :
    (lookingBack now lookback).start.time.isLeap = false ∧
      (lookingBack now lookback).start.instant = max Timestamp.first.instant
        (now.instant - (lookback.millis.toNat * Lookback.nanosPerMilli : Nat)) := by
  rw [start_lookingBack_eq hv]
  generalize lookback.millis.toNat * Lookback.nanosPerMilli = nanos
  cases hback : now.back? nanos with
  | none =>
      have hlow := (Timestamp.back?_eq_none_iff hv).1 hback
      exact ⟨rfl, (Int.max_eq_left (Int.le_of_lt hlow)).symm⟩
  | some start =>
      rw [Time.isLeap_eq_false_iff] at hleap
      rcases Timestamp.back?_cases hback with ⟨hin, -, -⟩ | ⟨-, hvalid, hnano, hinstant⟩
      · exact absurd hleap (Nat.not_lt_of_le hin)
      · refine ⟨Time.isLeap_eq_false_iff.2 hnano, ?_⟩
        have hfirst := Timestamp.first_instant_le hvalid.representable
        rw [hinstant] at hfirst
        rw [Option.getD_some, hinstant, Int.max_eq_right hfirst]

theorem eq_start_lookingBack_iff {t : Timestamp} : t = (lookingBack now lookback).start ↔
    t.Valid ∧ t.time.isLeap = false ∧ t.instant = max Timestamp.first.instant
      (now.instant - (lookback.millis.toNat * Lookback.nanosPerMilli : Nat)) := by
  obtain ⟨hnoLeap, hinstant⟩ := instant_start_lookingBack hv hleap lookback
  have hvalid := (representable_start_lookingBack lookback hv).valid
    (Time.isLeap_eq_false_iff.1 hnoLeap)
  constructor
  · intro h
    rw [h]
    exact ⟨hvalid, hnoLeap, hinstant⟩
  · intro h
    obtain ⟨ht, htleap, htinstant⟩ := h
    exact Timestamp.eq_of_instant_eq ht hvalid htleap hnoLeap (htinstant.trans hinstant.symm)

/-- The default window is as long as the lookback, or as the calendar before now. -/
theorem elapsed_lookingBack : (lookingBack now lookback).elapsed =
    min ((lookback.millis.toNat * Lookback.nanosPerMilli : Nat) : Int)
      (now.instant - Timestamp.first.instant) := by
  obtain ⟨hnoLeap, hinstant⟩ := instant_start_lookingBack hv hleap lookback
  rw [elapsed, stop_lookingBack, Timestamp.elapsed_eq hnoLeap hleap, hinstant]
  omega

end NoLeap

/-- **The default window is exact, and saturates.** It stops now and starts at a timestamp that is
no later, and is now only with no lookback or at the start of the calendar. A longer lookback starts
no later than a shorter one, and earlier as long as the calendar allows. All this holds wherever in
a minute now prolongs a second; the start is well-formed if now is. Outside leap seconds, the start
is the one timestamp at the instant that many milliseconds ago, or the first timestamp if that is
later, and the window is that long unless it was cut short. -/
theorem lookingBack_exact (hv : now.Representable) :
    (∀ lookback, (lookingBack now lookback).stop = now ∧
      (lookingBack now lookback).start.Representable ∧
      (now.Valid → (lookingBack now lookback).start.Valid) ∧
      (lookingBack now lookback).start ≤ now ∧
      ((lookingBack now lookback).start = now ↔
        lookback.millis.toNat = 0 ∨ now = Timestamp.first)) ∧
    (∀ shorter longer : Lookback, shorter ≤ longer →
      (lookingBack now longer).start ≤ (lookingBack now shorter).start ∧
      (shorter < longer → (lookingBack now shorter).start ≠ Timestamp.first →
        (lookingBack now longer).start < (lookingBack now shorter).start)) ∧
    (now.time.isLeap = false → ∀ lookback : Lookback,
      let nanos : Int := lookback.millis.toNat * 1000000
      (∀ t, t = (lookingBack now lookback).start ↔ t.Valid ∧ t.time.isLeap = false ∧
        t.instant = max Timestamp.first.instant (now.instant - nanos)) ∧
      (Timestamp.first.instant ≤ now.instant - nanos →
        (lookingBack now lookback).elapsed = nanos) ∧
      (now.instant - nanos < Timestamp.first.instant →
        (lookingBack now lookback).start = Timestamp.first ∧
          (lookingBack now lookback).elapsed < nanos)) := by
  refine ⟨fun lookback => ?_, fun shorter longer h => ?_, fun hleap lookback => ?_⟩
  · exact ⟨rfl, representable_start_lookingBack lookback hv, valid_start_lookingBack lookback,
      start_lookingBack_le hv lookback, start_lookingBack_eq_iff hv lookback⟩
  · exact ⟨start_lookingBack_antitone hv h, start_lookingBack_lt_start hv⟩
  · intro nanos
    have hnanos : ((lookback.millis.toNat * Lookback.nanosPerMilli : Nat) : Int) = nanos := by
      simp [nanos, Lookback.nanosPerMilli]
    have hstart : ∀ t, t = (lookingBack now lookback).start ↔ t.Valid ∧ t.time.isLeap = false ∧
        t.instant = max Timestamp.first.instant (now.instant - nanos) := by
      intro t
      rw [← hnanos]
      exact eq_start_lookingBack_iff hv hleap lookback
    have helapsed := elapsed_lookingBack hv hleap lookback
    rw [hnanos] at helapsed
    refine ⟨hstart, fun hreaches => ?_, fun hcut => ⟨?_, by omega⟩⟩
    · omega
    · have hfirst := (Int.max_eq_left (Int.le_of_lt hcut)).symm
      exact ((hstart _).2 ⟨Timestamp.first_valid, rfl, hfirst⟩).symm

/-- From the middle of a leap second, 499 milliseconds stay within it and 501 lead out, at the end
of a minute or within one. One millisecond before March 2024 is in its leap day, and the longest
lookback reaches the start of the calendar. -/
theorem lookingBack_exact_leapSecond :
    let leap : Timestamp := ⟨⟨2016, 12, 31⟩, ⟨86399, 1500000000⟩⟩
    let within : Timestamp := ⟨⟨2016, 12, 31⟩, ⟨86369, 1500000000⟩⟩
    let march : Timestamp := ⟨⟨2024, 3, 1⟩, ⟨0, 0⟩⟩
    let longest : Lookback := ⟨18446744073709551615⟩
    (leap.Valid ∧ (lookingBack leap ⟨501⟩).start.Valid) ∧
    (within.Representable ∧ ¬ within.Valid ∧ (⟨499⟩ : Lookback) < ⟨501⟩ ∧
      (lookingBack within ⟨499⟩).start ≠ Timestamp.first ∧
      (lookingBack within ⟨501⟩).start < (lookingBack within ⟨499⟩).start) ∧
    (march.Representable ∧ march.time.isLeap = false ∧
      (lookingBack march ⟨1⟩).start = ⟨⟨2024, 2, 29⟩, ⟨86399, 999000000⟩⟩ ∧
      (lookingBack march ⟨1⟩).elapsed = 1000000 ∧
      (lookingBack march longest).start = Timestamp.first ∧
      (lookingBack march longest).elapsed < longest.millis.toNat * 1000000) := by
  intro leap within march longest
  have hleap : leap.Valid := by decide
  have hwithin : within.Representable := by decide
  have hmarch : march.Representable := by decide
  have hstart := ((lookingBack_exact hleap.representable).1 ⟨501⟩).2.2.1 hleap
  have hfirst : (lookingBack within ⟨499⟩).start ≠ Timestamp.first := by decide
  have hearlier := ((lookingBack_exact hwithin).2.1 ⟨499⟩ ⟨501⟩ (by decide)).2 (by decide) hfirst
  obtain ⟨hinstant, hexact, -⟩ := (lookingBack_exact hmarch).2.2 rfl ⟨1⟩
  obtain ⟨-, -, hcut⟩ := (lookingBack_exact hmarch).2.2 rfl longest
  exact ⟨⟨hleap, hstart⟩, ⟨hwithin, by decide, by decide, hfirst, hearlier⟩, hmarch, rfl,
    ((hinstant _).2 (by decide)).symm, hexact (by decide), hcut (by decide)⟩

end Window

end QueryWindow
