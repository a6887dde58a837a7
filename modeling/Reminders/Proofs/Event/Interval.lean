import Reminders.Event.Basic

/-!
# Event — intervals

An event *covers* the instants from its start up to its end, the end excluded.  Two events overlap
exactly when each starts before the other ends; the test does not depend on their order.

* `not_covers_both`: events that do not overlap cover no instant together.
* `conflictsWith_iff`: what it takes to exclude a candidate.
-/

namespace Reminders.Event

/-- The instant lies in the half-open interval of the event. -/
def Covers (e : Event) (t : Instant) : Prop :=
  e.startTime ≤ t ∧ t < e.endTime

theorem overlaps_iff {a b : Event} :
    a.overlaps b = true ↔ a.startTime < b.endTime ∧ b.startTime < a.endTime := by
  simp [overlaps, intervalsOverlap]

theorem overlaps_comm (a b : Event) : a.overlaps b = b.overlaps a := by
  simp only [overlaps, intervalsOverlap, Bool.and_comm]

/-- An event intersects a range of time if each starts before the other ends. -/
theorem intersectsRange_iff {e : Event} {first last : Instant} :
    e.intersectsRange first last = true ↔ first < e.endTime ∧ e.startTime < last := by
  simp only [intersectsRange, Bool.not_eq_true', Bool.or_eq_false_iff, decide_eq_false_iff_not]
  exact and_congr Int.not_le Int.not_le

/-- Events that do not overlap cover no instant together. -/
theorem not_covers_both {a b : Event} (h : a.overlaps b = false) (t : Instant) :
    ¬ (a.Covers t ∧ b.Covers t) := by
  rintro ⟨⟨ha, ha'⟩, hb, hb'⟩
  have ho : a.overlaps b = true := by
    rw [overlaps_iff]
    simp only [Instant.lt_def, Instant.le_def] at ha ha' hb hb' ⊢
    exact ⟨by omega, by omega⟩
  rw [h] at ho
  cases ho

/-- A stored event excludes a candidate of the same owner and another id that overlaps it. -/
theorem conflictsWith_iff {e other : Event} :
    e.conflictsWith other = true ↔
      other.userId = e.userId ∧ other.id ≠ e.id ∧ e.overlaps other = true := by
  simp [conflictsWith, and_assoc]

theorem conflictsWith_eq_false_iff {e other : Event} :
    e.conflictsWith other = false ↔
      (other.userId = e.userId → other.id ≠ e.id → e.overlaps other = false) := by
  rw [← Bool.not_eq_true, conflictsWith_iff]
  constructor
  · intro h hu hid
    exact Bool.eq_false_iff.mpr fun ho => h ⟨hu, hid, ho⟩
  · rintro h ⟨hu, hid, ho⟩
    rw [h hu hid] at ho
    cases ho

end Reminders.Event
