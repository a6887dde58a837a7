import Reminders.Event.Wire
import Reminders.Proofs.Json.Number
import Reminders.Proofs.Time.Clock

/-!
# Event — written events read back

The values that the fields of an event hold read back one by one, and so the event does.

* `readInstant_writeInstant`, `readSeconds_writeInteger`: instants and seconds of notice.
* `Event.decode_encode`: an event reads back with its times as they are written.
-/

namespace Reminders

open Json Record

theorem readInstant_writeInstant (t : Instant) (rest : Bytes) :
    readInstant (writeInstant t ++ rest) = .ok (t.settled, rest) :=
  readTextAs_writeText t.read?_write rest

theorem readSeconds_writeInteger (n : UInt32) {rest : Bytes} (h : AtEnd rest) :
    readSeconds (writeInteger n.toNat ++ rest) = .ok (n, rest) := by
  have hn : n.toNat < 4294967296 := n.toNat_lt
  have hread : readIntegerIn 0 4294967295 (writeInteger n.toNat ++ rest) = .ok (n.toNat, rest) :=
    readIntegerIn_writeInteger (by omega) (by omega) (by decide) (by decide) h
  rw [readSeconds, reader_map _ hread, Int.toNat_natCast, UInt32.ofNat_toNat]

namespace Event

/-- The event with its times as they are written. -/
def settled (e : Event) : Event :=
  { e with startTime := e.startTime.settled, endTime := e.endTime.settled }

theorem settled_eq_iff {e : Event} :
    e.settled = e ↔ e.startTime.IsClockTime ∧ e.endTime.IsClockTime := by
  rw [← Instant.settled_eq_iff, ← Instant.settled_eq_iff]
  cases e
  simp [settled]

/-- **A written event reads back.** -/
theorem decode_encode (e : Event) : decode e.encode = .ok e.settled := by
  refine run_writeObject (?_ : Takes _ _ _ ⟨some e.id, some e.userId, some e.title,
    some e.description, some e.startTime.settled, some e.endTime.settled, some e.notifyBefore⟩) rfl
  refine .cons rfl rfl (fun rest _ => Field.read_of (readText_writeText e.id rest) _) ?_
  refine .cons rfl rfl (fun rest _ => Field.read_of (readText_writeText e.userId rest) _) ?_
  refine .cons rfl rfl (fun rest _ => Field.read_of (readText_writeText e.title rest) _) ?_
  refine .cons rfl rfl (fun rest _ => Field.read_of (readText_writeText e.description rest) _) ?_
  refine .cons rfl rfl (fun rest _ => Field.read_of (readInstant_writeInstant e.startTime rest) _) ?_
  refine .cons rfl rfl (fun rest _ => Field.read_of (readInstant_writeInstant e.endTime rest) _) ?_
  refine .cons rfl rfl (fun _ h => Field.read_of (readSeconds_writeInteger e.notifyBefore h) _) ?_
  exact .nil _

end Event

end Reminders
