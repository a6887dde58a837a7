import Reminders.Proofs.Text.Digits
import Reminders.Proofs.Time.Written

/-!
# Time — what a clock shows

A clock shows whole seconds with their nanoseconds, and a leap second only as the last second of a
minute.  Any other instant in the second half of a second has no written form of its own: no text
names it, and no shift of time leads to it from what a clock shows.

* `exists_read?_iff`: the instants that a text names are those that a clock shows; `settled_eq_iff`:
  no other ones read back as they were written.
* `IsClockTime.shift?`: a shift of time stays among them.
-/

namespace Reminders.Instant

open Text

/-- A clock shows the instant: what lies beyond the last nanosecond of a second is a leap second,
and a leap second ends a minute. -/
def IsClockTime (t : Instant) : Prop :=
  t.nanosecond < 1000000000 ∨ t.unixSecond % 60 = 59

instance (t : Instant) : Decidable t.IsClockTime :=
  inferInstanceAs (Decidable (_ ∨ _))

/-- The second and the nanoseconds of an instant that is given by them. -/
theorem fields_of_ofUnix? {second nanos : Int} {t : Instant} (h : ofUnix? second nanos = some t) :
    t.unixSecond = second ∧ t.nanosecond = nanos := by
  obtain ⟨⟨hlower, hupper⟩, h⟩ := Option.ite_none_right_eq_some.mp h
  rw [ofRank?] at h
  split at h
  · obtain rfl := Option.some.inj h
    simp only [unixSecond, nanosecond]
    omega
  · cases h

/-! ### Reading -/

/-- A fraction is less than a second. -/
theorem readFraction_lt {cs rest : List Char} {nanos : Nat}
    (h : readFraction cs = some (nanos, rest)) : nanos < 1000000000 := by
  rw [readFraction.eq_def] at h
  split at h
  · obtain ⟨⟨value, after⟩, hread, h⟩ := Option.bind_eq_some_iff.mp h
    obtain ⟨rfl, -⟩ := Prod.mk.inj (Option.some.inj h)
    obtain ⟨ds, rfl, hlimit, hvalue⟩ := exists_of_readNat hread
    have hused : (ds ++ after).length - after.length = ds.length := by simp
    simp only [hused]
    calc value * Nat.pow 10 (9 - ds.length)
        < 10 ^ ds.length * 10 ^ (9 - ds.length) :=
          Nat.mul_lt_mul_of_pos_right hvalue (Nat.pow_pos (by decide))
      _ = 1000000000 := by rw [← Nat.pow_add, Nat.add_sub_cancel' hlimit]
  · obtain ⟨rfl, -⟩ := Prod.mk.inj (Option.some.inj h)
    decide

theorem readOffset_mod {cs rest : List Char} {offset : Nat}
    (h : readOffset cs = some (offset, rest)) : offset % 60 = 0 := by
  simp only [readOffset, Option.bind_eq_bind, Option.bind_eq_some_iff] at h
  obtain ⟨⟨hours, cs₁⟩, -, ⟨minutes, cs₂⟩, -, h⟩ := h
  obtain ⟨-, h⟩ := Option.ite_none_right_eq_some.mp h
  obtain ⟨rfl, -⟩ := Prod.mk.inj (Option.some.inj h)
  omega

/-- A zone is whole minutes away from Coordinated Universal Time. -/
theorem readZone_mod {cs rest : List Char} {offset : Int} (h : readZone cs = some (offset, rest)) :
    offset % 60 = 0 := by
  rw [readZone.eq_def] at h
  split at h
  case h_1 | h_2 =>
    obtain ⟨rfl, -⟩ := Prod.mk.inj (Option.some.inj h)
    rfl
  case h_3 | h_4 | h_5 =>
    obtain ⟨⟨n, r⟩, hoffset, h⟩ := Option.map_eq_some_iff.mp h
    obtain ⟨rfl, -⟩ := Prod.mk.inj h
    have := readOffset_mod hoffset
    omega
  case h_6 =>
    obtain ⟨-, h⟩ := Option.ite_none_right_eq_some.mp h
    obtain ⟨rfl, -⟩ := Prod.mk.inj (Option.some.inj h)
    rfl
  case h_7 => cases h

theorem isClockTime_of_ofFields? {date : Date} {hour minute second nanos : Nat} {offset : Int}
    {t : Instant} (hnanos : nanos < 1000000000) (hoffset : offset % 60 = 0)
    (h : ofFields? date hour minute second nanos offset = some t) : t.IsClockTime := by
  obtain ⟨hvalid, h⟩ := Option.ite_none_right_eq_some.mp h
  obtain ⟨-, h⟩ := Option.ite_none_right_eq_some.mp h
  obtain ⟨hsecond, hnano⟩ := fields_of_ofUnix? h
  simp only [Bool.and_eq_true, decide_eq_true_eq] at hvalid
  rw [IsClockTime, hsecond, hnano]
  rcases Nat.lt_or_ge second 60 with hlt | hge
  · exact .inl (by omega)
  · obtain rfl : second = 60 := by omega
    exact .inr (by omega)

/-- A text names only what a clock shows. -/
theorem isClockTime_of_read? {s : String} {t : Instant} (h : read? s = some t) :
    t.IsClockTime := by
  rw [read?, readChars?] at h
  obtain ⟨⟨year, cs₁⟩, -, h⟩ := Option.bind_eq_some_iff.mp h
  obtain ⟨cs₂, -, h⟩ := Option.bind_eq_some_iff.mp h
  obtain ⟨⟨month, cs₃⟩, -, h⟩ := Option.bind_eq_some_iff.mp h
  obtain ⟨cs₄, -, h⟩ := Option.bind_eq_some_iff.mp h
  obtain ⟨⟨day, cs₅⟩, -, h⟩ := Option.bind_eq_some_iff.mp h
  -- The mark between date and time is one of three.
  dsimp only at h
  split at h
  case h_1 | h_2 | h_3 =>
    obtain ⟨cs₆, -, h⟩ := Option.bind_eq_some_iff.mp h
    obtain ⟨⟨hour, cs₇⟩, -, h⟩ := Option.bind_eq_some_iff.mp h
    obtain ⟨cs₈, -, h⟩ := Option.bind_eq_some_iff.mp h
    obtain ⟨⟨minute, cs₉⟩, -, h⟩ := Option.bind_eq_some_iff.mp h
    obtain ⟨cs₁₀, -, h⟩ := Option.bind_eq_some_iff.mp h
    obtain ⟨⟨second, cs₁₁⟩, -, h⟩ := Option.bind_eq_some_iff.mp h
    obtain ⟨⟨nanos, cs₁₂⟩, hfraction, h⟩ := Option.bind_eq_some_iff.mp h
    obtain ⟨⟨offset, cs₁₃⟩, hzone, h⟩ := Option.bind_eq_some_iff.mp h
    obtain ⟨-, h⟩ := Option.ite_none_right_eq_some.mp h
    exact isClockTime_of_ofFields? (readFraction_lt hfraction) (readZone_mod hzone) h
  case h_4 => cases h

/-- The written form of an instant names it exactly if a clock shows it. -/
theorem settled_eq_iff {t : Instant} : t.settled = t ↔ t.IsClockTime := by
  refine ⟨fun h => isClockTime_of_read? (s := t.write) ?_, settled_eq⟩
  rw [read?_write, h]

/-- **The instants that a text names** are those that a clock shows. -/
theorem exists_read?_iff {t : Instant} : (∃ s, read? s = some t) ↔ t.IsClockTime := by
  constructor
  · rintro ⟨s, h⟩
    exact isClockTime_of_read? h
  · intro h
    exact ⟨t.write, by rw [read?_write, settled_eq h]⟩

/-! ### Arithmetic -/

theorem isClockTime_of_ofUnix? {second nanos : Int} {t : Instant} (hnanos : nanos < 1000000000)
    (h : ofUnix? second nanos = some t) : t.IsClockTime := by
  obtain ⟨-, hnano⟩ := fields_of_ofUnix? h
  exact .inl (by omega)

/-- **A shift of time** leads from what a clock shows to what a clock shows. -/
theorem IsClockTime.shift? {t t' : Instant} (ht : t.IsClockTime) {nanos : Int}
    (h : t.shift? nanos = some t') : t'.IsClockTime := by
  have helapsed : ∀ total : Int, ofUnix? (total / 1000000000) (total % 1000000000) = some t' →
      t'.IsClockTime :=
    fun total => isClockTime_of_ofUnix? (by omega)
  simp only [Instant.shift?] at h
  split at h
  · exact helapsed _ h
  · next hleap =>
      split at h
      · exact helapsed _ h
      · split at h
        · exact helapsed _ h
        · -- The shift stays within the leap second and the second before it.
          obtain ⟨hsecond, -⟩ := fields_of_ofUnix? h
          rw [IsClockTime, hsecond]
          exact .inr (ht.resolve_left hleap)

end Reminders.Instant
