import Reminders.Proofs.Time.Shift

/-!
# Time — instants as whole numbers

Outside leap seconds an instant is a number of nanoseconds since 1970, and moving it adds to this
number.  The sum may lie outside the span of instants; a move that then stops at an end of the span
still compares with every instant as the sum does.

* `lt_iff_nanos_lt`, `le_iff_nanos_le`: the order of such instants.
* `shift?_eq_some_iff`, `of_shift?_eq_none`: moving them.
* `nanos_later`, `nanos_earlier`: moves that stop at the ends of the span; `le_later_iff`,
  `lt_earlier_iff`: where they lead.
-/

namespace Reminders.Instant

/-- The instant does not lie in a leap second. -/
def IsRegular (t : Instant) : Prop :=
  t.nanosecond < 1000000000

instance (t : Instant) : Decidable t.IsRegular :=
  inferInstanceAs (Decidable (_ < _))

/-- The nanoseconds since 1970, leap seconds left out. -/
def nanos (t : Instant) : Int :=
  t.unixSecond * 1000000000 + t.nanosecond

variable {t u : Instant} {n : Int}

/-! ### The order -/

theorem lt_iff_nanos_lt (ht : t.IsRegular) (hu : u.IsRegular) : t < u ↔ t.nanos < u.nanos := by
  have hnonneg := t.nanosecond_nonneg
  have hnonneg' := u.nanosecond_nonneg
  rw [IsRegular] at ht hu
  rw [lt_def, rank_eq, rank_eq, nanos, nanos]
  omega

theorem le_iff_nanos_le (ht : t.IsRegular) (hu : u.IsRegular) : t ≤ u ↔ t.nanos ≤ u.nanos := by
  rw [← Int.not_lt, ← lt_iff_nanos_lt hu ht]
  exact Int.not_lt.symm

theorem isRegular_earliest : earliest.IsRegular := by
  decide

theorem isRegular_latest : latest.IsRegular := by
  decide

theorem le_latest (ht : t.IsRegular) : t ≤ latest := by
  have hupper := t.upper
  have hnonneg := t.nanosecond_nonneg
  have hlatest : latest.rank = 8210266876799 * 2000000000 + 999999999 := rfl
  rw [IsRegular] at ht
  rw [rank_eq] at hupper
  rw [le_def, rank_eq t, hlatest]
  omega

theorem nanos_earliest_le (ht : t.IsRegular) : earliest.nanos ≤ t.nanos :=
  (le_iff_nanos_le isRegular_earliest ht).mp t.lower

theorem nanos_le_latest (ht : t.IsRegular) : t.nanos ≤ latest.nanos :=
  (le_iff_nanos_le ht isRegular_latest).mp (le_latest ht)

/-! ### Moves -/

/-- The instant of some nanoseconds. -/
theorem ofUnix?_eq_some_iff :
    ofUnix? (n / 1000000000) (n % 1000000000) = some u ↔ u.IsRegular ∧ u.nanos = n := by
  constructor
  · intro h
    obtain ⟨hrank, _⟩ := rank_of_ofUnix? h
    have hsecond : u.unixSecond = n / 1000000000 := by
      rw [unixSecond]
      omega
    have hnanos : u.nanosecond = n % 1000000000 := by
      rw [nanosecond]
      omega
    rw [IsRegular, nanos, hsecond, hnanos]
    omega
  · rintro ⟨hu, rfl⟩
    have hnonneg := u.nanosecond_nonneg
    rw [IsRegular] at hu
    have hsecond : u.nanos / 1000000000 = u.unixSecond := by
      rw [nanos]
      omega
    have hnanos : u.nanos % 1000000000 = u.nanosecond := by
      rw [nanos]
      omega
    rw [hsecond, hnanos, ofUnix?_self]

/-- There is such an instant unless the nanoseconds lie outside the span. -/
theorem ofUnix?_isSome (hlower : earliest.nanos ≤ n) (hupper : n ≤ latest.nanos) :
    (ofUnix? (n / 1000000000) (n % 1000000000)).isSome = true := by
  have hearliest : earliest.nanos = -8334601228800 * 1000000000 := rfl
  have hlatest : latest.nanos = 8210266876799 * 1000000000 + 999999999 := rfl
  rw [ofUnix?, if_pos (by omega), ofRank?, dif_pos (by omega)]
  rfl

theorem shift?_eq_ofUnix? (ht : t.IsRegular) (n : Int) :
    t.shift? n = ofUnix? ((t.nanos + n) / 1000000000) ((t.nanos + n) % 1000000000) := by
  rw [shift?]
  exact if_pos ht

/-- A move adds to the nanoseconds. -/
theorem shift?_eq_some_iff (ht : t.IsRegular) :
    t.shift? n = some u ↔ u.IsRegular ∧ u.nanos = t.nanos + n := by
  rw [shift?_eq_ofUnix? ht, ofUnix?_eq_some_iff]

/-- A move that has no result leads past an end of the span. -/
theorem of_shift?_eq_none (ht : t.IsRegular) (h : t.shift? n = none) :
    t.nanos + n < earliest.nanos ∨ latest.nanos < t.nanos + n := by
  rw [shift?_eq_ofUnix? ht] at h
  refine Decidable.byContradiction fun hspan => ?_
  rw [not_or, Int.not_lt, Int.not_lt] at hspan
  have hsome := ofUnix?_isSome hspan.1 hspan.2
  rw [h] at hsome
  cases hsome

/-! ### Moves that stop at the ends -/

/-- A move forward that may stop at the end of the span. -/
theorem nanos_later (ht : t.IsRegular) (n : Nat) :
    (t.later n).IsRegular ∧ (t.later n).nanos = min (t.nanos + n) latest.nanos := by
  rw [later_eq]
  cases h : t.shift? n with
  | some v =>
      obtain ⟨hv, hsum⟩ := (shift?_eq_some_iff ht).mp h
      have hend := nanos_le_latest hv
      exact ⟨hv, by rw [Option.getD_some]; omega⟩
  | none =>
      -- A move forward can only pass the end.
      have hstart := nanos_earliest_le ht
      have hpast := of_shift?_eq_none ht h
      exact ⟨isRegular_latest, by rw [Option.getD_none]; omega⟩

/-- A move back that may stop at the start of the span. -/
theorem nanos_earlier (ht : t.IsRegular) (n : Nat) :
    (t.earlier n).IsRegular ∧ (t.earlier n).nanos = max (t.nanos - n) earliest.nanos := by
  rw [earlier_eq]
  cases h : t.shift? (-(n : Int)) with
  | some v =>
      obtain ⟨hv, hsum⟩ := (shift?_eq_some_iff ht).mp h
      have hstart := nanos_earliest_le hv
      exact ⟨hv, by rw [Option.getD_some]; omega⟩
  | none =>
      have hend := nanos_le_latest ht
      have hpast := of_shift?_eq_none ht h
      exact ⟨isRegular_earliest, by rw [Option.getD_none]; omega⟩

/-- An instant is not later than a move forward that may stop exactly if it does not exceed the
sum. -/
theorem le_later_iff (ht : t.IsRegular) (hu : u.IsRegular) (n : Nat) :
    u ≤ t.later n ↔ u.nanos ≤ t.nanos + n := by
  obtain ⟨hlater, hsum⟩ := nanos_later ht n
  rw [le_iff_nanos_le hu hlater, hsum, Int.le_min, and_iff_left (nanos_le_latest hu)]

/-- An instant is earlier than a move back that may stop exactly if it is less than the
difference. -/
theorem lt_earlier_iff (ht : t.IsRegular) (hu : u.IsRegular) (n : Nat) :
    u < t.earlier n ↔ u.nanos + n < t.nanos := by
  obtain ⟨hearlier, hdifference⟩ := nanos_earlier ht n
  have hstart := nanos_earliest_le hu
  rw [lt_iff_nanos_lt hu hearlier, hdifference]
  omega

end Reminders.Instant
