import Reminders.Time.Instant

/-!
# Time — moving instants

Whatever leap seconds lie in between, an instant that is moved forward does not come earlier, and
one that is moved back does not come later.

* `le_of_shift?`, `le_of_shift?_neg`: the direction of a move.
* `shift?_eq_none`, `later_eq`, `earlier_eq`: times too long for a move.
* `later_lt_iff`, `later_le_latest`, `earlier_le`: how far a move that stops at an end of the span
  can lead.
-/

namespace Reminders.Instant

variable {t u : Instant} {n : Nat}

theorem rank_of_ofUnix? {second nanos : Int} (h : ofUnix? second nanos = some u) :
    u.rank = second * 2000000000 + nanos ∧ 0 ≤ nanos ∧ nanos < 2000000000 := by
  rw [ofUnix?] at h
  split at h
  · next hn =>
      rw [ofRank?] at h
      split at h
      · obtain rfl := Option.some.inj h
        exact ⟨rfl, hn⟩
      · cases h
  · cases h

/-- An instant that is moved forward does not come earlier. -/
theorem le_of_shift? (h : t.shift? n = some u) : t ≤ u := by
  have ht := t.rank_eq
  have hlower := t.nanosecond_nonneg
  have hupper := t.nanosecond_lt
  simp only [shift?] at h
  rw [le_def]
  split at h
  · obtain ⟨hu, _⟩ := rank_of_ofUnix? h
    omega
  · split at h
    · omega
    · split at h
      · obtain ⟨hu, _⟩ := rank_of_ofUnix? h
        omega
      · obtain ⟨hu, _⟩ := rank_of_ofUnix? h
        omega

/-- An instant that is moved back does not come later. -/
theorem le_of_shift?_neg (h : t.shift? (-(n : Int)) = some u) : u ≤ t := by
  have ht := t.rank_eq
  have hlower := t.nanosecond_nonneg
  have hupper := t.nanosecond_lt
  simp only [shift?] at h
  rw [le_def]
  split at h
  · obtain ⟨hu, _⟩ := rank_of_ofUnix? h
    omega
  · split at h
    · obtain ⟨hu, _⟩ := rank_of_ofUnix? h
      omega
    · split at h
      · omega
      · obtain ⟨hu, _⟩ := rank_of_ofUnix? h
        omega

/-- No instant can be moved by `2^63` milliseconds without leaving the span. -/
theorem shift?_eq_none {move : Int} (h : longestMove < move.natAbs) : t.shift? move = none := by
  have hsecond : -8334601228800 ≤ t.unixSecond ∧ t.unixSecond < 8210266876800 := by
    have hlower := t.lower
    have hupper := t.upper
    rw [unixSecond]
    omega
  have hnonneg := t.nanosecond_nonneg
  have hlt := t.nanosecond_lt
  have hlong : longestMove = 9223372036854775807 * 1000000 := rfl
  refine Option.eq_none_iff_forall_ne_some.mpr fun u hu => ?_
  have hlower' := u.lower
  have hupper' := u.upper
  simp only [shift?] at hu
  split at hu
  · obtain ⟨hu, _⟩ := rank_of_ofUnix? hu
    omega
  · split at hu
    · obtain ⟨hu, _⟩ := rank_of_ofUnix? hu
      omega
    · split at hu
      · obtain ⟨hu, _⟩ := rank_of_ofUnix? hu
        omega
      · obtain ⟨hu, _⟩ := rank_of_ofUnix? hu
        omega

/-- A time that is too long for a move would lead past the end. -/
theorem later_eq (t : Instant) (n : Nat) : t.later n = (t.shift? n).getD latest := by
  rw [later, move?]
  split
  · rfl
  · next hlong => rw [shift?_eq_none (by omega), Option.bind_none]

/-- A time that is too long for a move back would lead past the start. -/
theorem earlier_eq (t : Instant) (n : Nat) :
    t.earlier n = (t.shift? (-(n : Int))).getD earliest := by
  rw [earlier, move?]
  split
  · rfl
  · next hlong => rw [shift?_eq_none (by omega), Option.bind_none]

/-- A move forward leads back only if it stops at the end of the span, and only from the leap second
after that end. -/
theorem later_lt_iff : t.later n < t ↔ t.later n = latest ∧ latest < t := by
  rw [later_eq]
  cases hu : t.shift? n with
  | none => exact (and_iff_right rfl).symm
  | some u =>
      have hle : t ≤ u := le_of_shift? hu
      refine iff_of_false (Int.not_lt.mpr hle) ?_
      rintro ⟨rfl, hlt⟩
      exact Int.not_le.mpr hlt hle

/-- A move back that stops at the start of the span does not lead to a later instant. -/
theorem earlier_le (t : Instant) (n : Nat) : t.earlier n ≤ t := by
  rw [earlier_eq]
  cases hu : t.shift? (-(n : Int)) with
  | none => exact t.lower
  | some u => exact le_of_shift?_neg hu

/-- A move of a second or more does not lead into the leap second that ends the span. -/
theorem later_le_latest (h : 1000000000 ≤ n) : t.later n ≤ latest := by
  have hlatest : latest.rank = 8210266876799 * 2000000000 + 999999999 := rfl
  rw [later_eq, le_def]
  cases hu : t.shift? n with
  | none => exact Int.le_refl _
  | some u =>
      have hupper := u.upper
      simp only [Option.getD_some]
      simp only [shift?] at hu
      split at hu
      · obtain ⟨hu, _⟩ := rank_of_ofUnix? hu
        omega
      · split at hu
        · omega
        · rw [if_pos (.inl (by omega))] at hu
          obtain ⟨hu, _⟩ := rank_of_ofUnix? hu
          omega

end Reminders.Instant
