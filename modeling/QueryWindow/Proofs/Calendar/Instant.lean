import QueryWindow.Calendar.Timestamp
import QueryWindow.Proofs.Calendar.DayNumber

/-!
# QueryWindow.Proofs.Calendar.Instant

**The order of timestamps, and how far `Timestamp.back?` goes.** Outside leap seconds a timestamp
and its instant determine each other (`Timestamp.ofInstant?_eq_some_iff`). A leap second shares its
instants with the second after it, so that going back from one has two cases: the amount fits into
what has passed of the leap second, or the step goes by the instant and lands before it.

The facts that windows need follow from these: going back by something leads strictly back
(`Timestamp.back?_lt`), by at most so many days leads back by at most so many dates
(`Timestamp.dayNumber_le_of_back?`), and it fails only where the calendar has no earlier instant
(`Timestamp.back?_eq_none_iff`).
-/

namespace QueryWindow

namespace Time

theorem lt_trichotomy (a b : Time) : a < b ∨ a = b ∨ b < a := by
  obtain ⟨sa, na⟩ := a
  obtain ⟨sb, nb⟩ := b
  simp only [lt_def, mk.injEq]
  omega

theorem lt_irrefl (a : Time) : ¬ a < a := by
  simp only [lt_def]
  omega

theorem lt_asymm {a b : Time} (h : a < b) : ¬ b < a := by
  simp only [lt_def] at h ⊢
  omega

end Time

namespace Timestamp

/-! ### The order of timestamps -/

theorem lt_trichotomy (a b : Timestamp) : a < b ∨ a = b ∨ b < a := by
  obtain ⟨da, ta⟩ := a
  obtain ⟨db, tb⟩ := b
  simp only [lt_def, mk.injEq]
  rcases Date.lt_trichotomy da db with h | rfl | h
  · exact Or.inl (Or.inl h)
  · rcases Time.lt_trichotomy ta tb with k | rfl | k
    · exact Or.inl (Or.inr ⟨rfl, k⟩)
    · exact Or.inr (Or.inl ⟨rfl, rfl⟩)
    · exact Or.inr (Or.inr (Or.inr ⟨rfl, k⟩))
  · exact Or.inr (Or.inr (Or.inl h))

theorem lt_irrefl (a : Timestamp) : ¬ a < a := by
  simp only [lt_def, Date.lt_irrefl, Time.lt_irrefl, and_false, or_self, not_false_eq_true]

theorem lt_asymm {a b : Timestamp} (h : a < b) : ¬ b < a := by
  intro hba
  rcases hba with k | ⟨hk, k⟩
  · rcases h with h | ⟨hh, -⟩
    · exact Date.lt_asymm h k
    · exact Date.lt_irrefl _ (hh ▸ k)
  · rcases h with h | ⟨-, h⟩
    · exact Date.lt_irrefl _ (hk ▸ h)
    · exact Time.lt_asymm h k

/-- No timestamp is before the first one. -/
theorem first_le {t : Timestamp} (h : t.date.Valid) : t = first ∨ first < t := by
  obtain ⟨date, time⟩ := t
  rcases Date.first_le h with hd | hd
  · obtain rfl : date = Date.first := hd
    obtain ⟨second, nano⟩ := time
    simp only [lt_def, first, mk.injEq, Time.lt_def, Time.midnight, Time.mk.injEq, true_and]
    omega
  · exact Or.inr (Or.inl hd)

/-- A later timestamp is not on an earlier date. -/
theorem dayNumber_le_of_lt {a b : Timestamp} (ha : a.date.Valid) (hb : b.date.Valid)
    (h : a < b) : a.date.dayNumber ≤ b.date.dayNumber :=
  Date.dayNumber_le_of_lt ha hb (h.imp id And.left)

/-! ### Instants -/

/-- An instant lies on the day of its timestamp, or in the leap second at the end of that day. -/
theorem instant_bounds {t : Timestamp} (h : t.Representable) :
    t.date.dayNumber * nanosPerDay ≤ t.instant ∧
      t.instant < t.date.dayNumber * nanosPerDay + nanosPerDay + nanosPerSecond := by
  obtain ⟨-, hs, hn⟩ := h
  simp only [instant, nanosPerDay, secondsPerDay, nanosPerSecond] at hs hn ⊢
  omega

/-- Outside leap seconds, the day of an instant is its quotient by the length of a day. -/
theorem instant_div {t : Timestamp} (h : t.Representable) (hl : t.time.nano < nanosPerSecond) :
    t.instant / nanosPerDay = t.date.dayNumber := by
  obtain ⟨-, hs, -⟩ := h
  simp only [instant, nanosPerDay, secondsPerDay, nanosPerSecond] at hs hl ⊢
  omega

/-- Reading an instant gives the timestamp outside leap seconds that has it. -/
theorem ofInstant?_eq_some_iff {n : Int} {t : Timestamp} :
    ofInstant? n = some t ↔ t.Valid ∧ t.time.nano < nanosPerSecond ∧ t.instant = n := by
  constructor
  · intro h
    have hv := valid_of_ofInstant? h
    obtain ⟨date, hd, rfl⟩ := Option.map_eq_some_iff.1 h
    have hday := (Date.ofDayNumber?_eq_some_iff.1 hd).2
    refine ⟨hv, ?_, ?_⟩
    · exact Nat.mod_lt _ (by decide)
    · simp only [instant, hday, nanosPerDay, secondsPerDay, nanosPerSecond]
      omega
  · intro h
    obtain ⟨hv, hl, rfl⟩ := h
    have hday := Date.ofDayNumber?_eq_some_iff.2 ⟨hv.1, (instant_div hv.representable hl).symm⟩
    unfold ofInstant?
    rw [hday]
    obtain ⟨-, hs, -, -⟩ := hv
    obtain ⟨date, second, nano⟩ := t
    simp only [Option.map_some, Option.some.injEq, mk.injEq, Time.mk.injEq, true_and]
    simp only [instant, nanosPerDay, secondsPerDay, nanosPerSecond] at hs hl ⊢
    omega

theorem instant_first : first.instant = Date.first.dayNumber * nanosPerDay := by
  simp [instant, first, Time.midnight]

theorem first_instant_le {t : Timestamp} (h : t.Representable) : first.instant ≤ t.instant := by
  have h1 := (instant_bounds h).1
  have h2 := Date.first_dayNumber_le h.1
  rw [instant_first]
  simp only [nanosPerDay, secondsPerDay, nanosPerSecond] at h1 ⊢
  omega

/-- The calendar has every instant from its first one to the end of its last day. -/
theorem exists_of_instant {n : Int} (hl : first.instant ≤ n)
    (hu : n < Date.last.dayNumber * nanosPerDay + nanosPerDay) : ∃ t, ofInstant? n = some t := by
  rw [instant_first] at hl
  simp only [nanosPerDay, secondsPerDay, nanosPerSecond] at hl hu
  have h1 : Date.first.dayNumber ≤ n / nanosPerDay := by
    simp only [nanosPerDay, secondsPerDay, nanosPerSecond]
    omega
  have h2 : n / nanosPerDay ≤ Date.last.dayNumber := by
    simp only [nanosPerDay, secondsPerDay, nanosPerSecond]
    omega
  obtain ⟨date, hd⟩ := Date.exists_of_dayNumber h1 h2
  unfold ofInstant?
  rw [hd]
  exact ⟨_, rfl⟩

/-! ### Going back -/

/-- What has passed of a leap second can be taken back without leaving it. -/
theorem back?_of_stays {t : Timestamp} {nanos : Nat} (h1 : nanosPerSecond ≤ t.time.nano)
    (h2 : nanos ≤ t.time.nano - nanosPerSecond) :
    t.back? nanos = some ⟨t.date, t.time.second, t.time.nano - nanos⟩ := by
  unfold back?
  rw [if_pos ⟨by simpa [Time.isLeap] using h1, h2⟩]

/-- Any other step back goes by the instant. -/
theorem back?_of_leaves {t : Timestamp} {nanos : Nat}
    (h : nanosPerSecond ≤ t.time.nano → t.time.nano - nanosPerSecond < nanos) :
    t.back? nanos = ofInstant? (t.instant - nanos) := by
  unfold back?
  rw [if_neg]
  intro hstays
  obtain ⟨h1, h2⟩ := hstays
  have := h (by simpa [Time.isLeap] using h1)
  omega

/-- What a step back leads to: it stays in the leap second, or arrives at the instant. -/
theorem back?_cases {t u : Timestamp} {nanos : Nat} (h : t.back? nanos = some u) :
    (nanosPerSecond ≤ t.time.nano ∧ nanos ≤ t.time.nano - nanosPerSecond ∧
        u = ⟨t.date, t.time.second, t.time.nano - nanos⟩) ∨
      ((nanosPerSecond ≤ t.time.nano → t.time.nano - nanosPerSecond < nanos) ∧
        u.Valid ∧ u.time.nano < nanosPerSecond ∧ u.instant = t.instant - nanos) := by
  by_cases hstay : nanosPerSecond ≤ t.time.nano ∧ nanos ≤ t.time.nano - nanosPerSecond
  · rw [back?_of_stays hstay.1 hstay.2] at h
    cases h
    exact Or.inl ⟨hstay.1, hstay.2, rfl⟩
  · have hleave : nanosPerSecond ≤ t.time.nano → t.time.nano - nanosPerSecond < nanos :=
      fun hl => Nat.lt_of_not_le fun hn => hstay ⟨hl, hn⟩
    rw [back?_of_leaves hleave] at h
    exact Or.inr ⟨hleave, ofInstant?_eq_some_iff.1 h⟩

theorem back?_zero {t : Timestamp} (h : t.Representable) : t.back? 0 = some t := by
  by_cases hl : nanosPerSecond ≤ t.time.nano
  · rw [back?_of_stays hl (Nat.zero_le _)]
    rfl
  · rw [back?_of_leaves fun k => absurd k hl]
    have hnano := Nat.lt_of_not_le hl
    exact ofInstant?_eq_some_iff.2 ⟨h.valid hnano, hnano, by simp⟩

/-- Going back by something leads to an earlier timestamp. -/
theorem back?_lt {t u : Timestamp} {nanos : Nat} (ht : t.Representable) (hn : 0 < nanos)
    (h : t.back? nanos = some u) : u < t := by
  rcases back?_cases h with ⟨-, hfit, rfl⟩ | ⟨hleave, hu, hul, hi⟩
  · exact Or.inr ⟨rfl, Or.inr ⟨rfl, show t.time.nano - nanos < t.time.nano by omega⟩⟩
  · -- The instant is before the leap second, so at most at the end of the second it prolongs.
    rw [lt_def, ← Date.dayNumber_lt_iff hu.1 ht.1, ← Date.dayNumber_inj hu.1 ht.1, Time.lt_def]
    obtain ⟨-, hus, -, -⟩ := hu
    obtain ⟨-, hts, -⟩ := ht
    simp only [instant, nanosPerDay, secondsPerDay, nanosPerSecond] at hi hleave hus hts hul
    omega

/-- Going back leads back by at most as many dates as there are days in the amount. -/
theorem dayNumber_le_of_back? {t u : Timestamp} {nanos days : Nat} (ht : t.Representable)
    (hn : nanos ≤ days * nanosPerDay) (h : t.back? nanos = some u) :
    t.date.dayNumber ≤ u.date.dayNumber + days := by
  rcases back?_cases h with ⟨-, -, rfl⟩ | ⟨-, hu, hul, hi⟩
  · show t.date.dayNumber ≤ t.date.dayNumber + days
    omega
  · rw [← instant_div hu.representable hul, hi]
    have := (instant_bounds ht).1
    simp only [nanosPerDay, secondsPerDay, nanosPerSecond] at this hn ⊢
    omega

/-- There is no way back exactly if the calendar does not reach back that far. -/
theorem back?_eq_none_iff {t : Timestamp} {nanos : Nat} (ht : t.Representable) :
    t.back? nanos = none ↔ t.instant - nanos < first.instant := by
  constructor
  · intro h
    refine Int.lt_of_not_ge fun hge => ?_
    -- A step that stays in a leap second always succeeds, so this one went by the instant.
    have hleave : nanosPerSecond ≤ t.time.nano → t.time.nano - nanosPerSecond < nanos := by
      refine fun hl => Nat.lt_of_not_le fun hn => ?_
      rw [back?_of_stays hl hn] at h
      cases h
    rw [back?_of_leaves hleave] at h
    have hlast := Date.dayNumber_le_last ht.1
    obtain ⟨u, hu⟩ := exists_of_instant hge (by
      obtain ⟨-, hs, -⟩ := ht
      simp only [instant, nanosPerDay, secondsPerDay, nanosPerSecond] at hleave hs ⊢
      omega)
    rw [h] at hu
    cases hu
  · intro h
    cases hb : t.back? nanos with
    | none => rfl
    | some u =>
        rcases back?_cases hb with ⟨h1, h2, -⟩ | ⟨-, hu, -, hi⟩
        · have := Date.first_dayNumber_le ht.1
          rw [instant_first] at h
          simp only [instant, nanosPerDay, secondsPerDay, nanosPerSecond] at h h1 h2
          omega
        · have := first_instant_le hu.representable
          omega

end Timestamp

end QueryWindow
