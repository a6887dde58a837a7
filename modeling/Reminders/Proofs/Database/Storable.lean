import Reminders.Database.Statement
import Reminders.Event.Basic
import Reminders.Proofs.Time.Shift

/-!
# Database — times that a column can hold

An instant is *storable* if it is the instant of some microseconds: then it is written as these and
reads back as it was.  Storable instants are ordered like their microseconds, and an instant some
seconds before one of them has so many fewer.

* `instantOf?_microsOf`: a storable instant reads back.
* `isStorable_iff`: which instants are storable.
* `lt_iff`, `le_iff`: the order of storable instants.
* `shift?_eq`: moving a storable instant by whole seconds.
-/

namespace Reminders.Instant

open Database

/-- The instant is that of some microseconds. -/
def IsStorable (t : Instant) : Prop :=
  ∃ micros, instantOf? micros = some t

variable {t u : Instant} {micros : Int}

/-- The second and the nanoseconds of the instant of some microseconds. -/
theorem fields_of_instantOf? (h : instantOf? micros = some t) :
    t.unixSecond = micros / 1000000 + epoch ∧ t.nanosecond = micros % 1000000 * 1000 := by
  obtain ⟨hrank, _⟩ := rank_of_ofUnix? h
  rw [unixSecond, nanosecond]
  omega

theorem microsOf_of_instantOf? (h : instantOf? micros = some t) : microsOf t = micros := by
  obtain ⟨hsecond, hnanos⟩ := fields_of_instantOf? h
  have hexact : (t.unixSecond - epoch) * 1000000000 + t.nanosecond = micros * 1000 := by
    omega
  rw [microsOf, hexact, Int.mul_tdiv_cancel _ (by decide)]

/-- A storable instant reads back. -/
theorem instantOf?_microsOf (h : t.IsStorable) : instantOf? (microsOf t) = some t := by
  obtain ⟨micros, h⟩ := h
  rwa [microsOf_of_instantOf? h]

/-- The second and the nanoseconds of a storable instant. -/
theorem fields_eq (h : t.IsStorable) :
    t.unixSecond = microsOf t / 1000000 + epoch ∧ t.nanosecond = microsOf t % 1000000 * 1000 :=
  fields_of_instantOf? (instantOf?_microsOf h)

/-- Storable instants are whole microseconds outside leap seconds. -/
theorem isStorable_iff : t.IsStorable ↔ t.nanosecond < 1000000000 ∧ t.nanosecond % 1000 = 0 := by
  constructor
  · intro h
    obtain ⟨_, hnanos⟩ := fields_eq h
    omega
  · rintro ⟨hlt, hwhole⟩
    have hnonneg := t.nanosecond_nonneg
    refine ⟨(t.unixSecond - epoch) * 1000000 + t.nanosecond / 1000, ?_⟩
    have hsecond : ((t.unixSecond - epoch) * 1000000 + t.nanosecond / 1000) / 1000000 + epoch =
        t.unixSecond := by
      omega
    have hnanos : ((t.unixSecond - epoch) * 1000000 + t.nanosecond / 1000) % 1000000 * 1000 =
        t.nanosecond := by
      omega
    rw [instantOf?, hsecond, hnanos, ofUnix?_self]

instance (t : Instant) : Decidable t.IsStorable :=
  decidable_of_iff _ isStorable_iff.symm

theorem lt_iff (ht : t.IsStorable) (hu : u.IsStorable) : t < u ↔ microsOf t < microsOf u := by
  obtain ⟨hsecond, hnanos⟩ := fields_eq ht
  obtain ⟨hsecond', hnanos'⟩ := fields_eq hu
  rw [lt_def, rank_eq, rank_eq]
  omega

theorem le_iff (ht : t.IsStorable) (hu : u.IsStorable) : t ≤ u ↔ microsOf t ≤ microsOf u := by
  rw [← Int.not_lt, ← lt_iff hu ht]
  exact Int.not_lt.symm

theorem decide_lt (ht : t.IsStorable) (hu : u.IsStorable) :
    decide (t < u) = decide (microsOf t < microsOf u) :=
  decide_eq_decide.mpr (lt_iff ht hu)

theorem decide_le (ht : t.IsStorable) (hu : u.IsStorable) :
    decide (t ≤ u) = decide (microsOf t ≤ microsOf u) :=
  decide_eq_decide.mpr (le_iff ht hu)

theorem eq_of_microsOf_eq (ht : t.IsStorable) (hu : u.IsStorable) (h : microsOf t = microsOf u) :
    t = u := by
  have hread := instantOf?_microsOf ht
  rw [h, instantOf?_microsOf hu] at hread
  exact (Option.some.inj hread).symm

/-- Moving a storable instant back by whole seconds. -/
theorem shift?_eq (h : t.IsStorable) (seconds : Nat) :
    t.shift? (-(seconds * 1000000000 : Nat)) = instantOf? (microsOf t - seconds * 1000000) := by
  obtain ⟨hsecond, hnanos⟩ := fields_eq h
  have hquotient : (t.unixSecond * 1000000000 + t.nanosecond + -(seconds * 1000000000 : Nat)) /
      1000000000 = (microsOf t - seconds * 1000000) / 1000000 + epoch := by
    omega
  have hremainder : (t.unixSecond * 1000000000 + t.nanosecond + -(seconds * 1000000000 : Nat)) %
      1000000000 = (microsOf t - seconds * 1000000) % 1000000 * 1000 := by
    omega
  rw [shift?, if_pos (by omega)]
  dsimp only
  rw [hquotient, hremainder]
  rfl

/-- Microseconds before those of a storable instant that are not those of an instant come before
those of all storable instants. -/
theorem lt_of_instantOf?_eq_none (h : instantOf? micros = none) (ht : t.IsStorable)
    (hle : micros ≤ microsOf t) (hu : u.IsStorable) : micros < microsOf u := by
  obtain ⟨hsecond, hnanos⟩ := fields_eq ht
  obtain ⟨hsecond', hnanos'⟩ := fields_eq hu
  have hrank := t.rank_eq
  have hrank' := u.rank_eq
  have hupper := t.upper
  have hlower := u.lower
  rw [instantOf?, ofUnix?, if_pos (by omega), ofRank?] at h
  split at h
  · cases h
  · omega

end Reminders.Instant
