import Reminders.Notification
import Reminders.Proofs.Event.Wire

/-!
# Notification — written messages read back

Whatever text a notification holds, its written form reads back as the same notification, with its
times as they are written.

* `Notification.decode_encode`, `DeliveryStatus.decode_encode`.
-/

namespace Reminders

open Json Record

namespace Notification

/-- The notification with its times as they are written. -/
def settled (n : Notification) : Notification :=
  { n with time := n.time.settled, notifyAt := n.notifyAt.settled }

theorem settled_eq_iff {n : Notification} :
    n.settled = n ↔ n.time.IsClockTime ∧ n.notifyAt.IsClockTime := by
  rw [← Instant.settled_eq_iff, ← Instant.settled_eq_iff]
  cases n
  simp [settled]

/-- **A written notification reads back.** -/
theorem decode_encode (n : Notification) : decode n.encode = .ok n.settled := by
  refine run_writeObject (?_ : Takes _ _ _ ⟨some n.id, some n.title, some n.description,
    some n.userId, some n.time.settled, some n.notifyAt.settled⟩) rfl
  refine .cons rfl rfl (fun rest _ => Field.read_of (readText_writeText n.id rest) _) ?_
  refine .cons rfl rfl (fun rest _ => Field.read_of (readText_writeText n.title rest) _) ?_
  refine .cons rfl rfl (fun rest _ => Field.read_of (readText_writeText n.description rest) _) ?_
  refine .cons rfl rfl (fun rest _ => Field.read_of (readText_writeText n.userId rest) _) ?_
  refine .cons rfl rfl (fun rest _ => Field.read_of (readInstant_writeInstant n.time rest) _) ?_
  refine .cons rfl rfl (fun rest _ => Field.read_of (readInstant_writeInstant n.notifyAt rest) _) ?_
  exact .nil _

end Notification

namespace DeliveryStatus

/-- The status with its time as it is written. -/
def settled (s : DeliveryStatus) : DeliveryStatus :=
  { s with timestamp := s.timestamp.settled }

theorem settled_eq_iff {s : DeliveryStatus} : s.settled = s ↔ s.timestamp.IsClockTime := by
  rw [← Instant.settled_eq_iff]
  cases s
  simp [settled]

/-- **A written status reads back.** -/
theorem decode_encode (s : DeliveryStatus) : decode s.encode = .ok s.settled := by
  have hname : Delivery.ofName? s.status.name = some s.status := by cases s.status; rfl
  refine run_writeObject (?_ : Takes _ _ _ ⟨some s.notificationId, some s.eventId, some s.userId,
    some s.status, some s.timestamp.settled⟩) rfl
  refine .cons rfl rfl (fun rest _ => Field.read_of (readText_writeText s.notificationId rest) _) ?_
  refine .cons rfl rfl (fun rest _ => Field.read_of (readText_writeText s.eventId rest) _) ?_
  refine .cons rfl rfl (fun rest _ => Field.read_of (readText_writeText s.userId rest) _) ?_
  refine .cons rfl rfl (fun rest _ => Field.read_of (readWord_writeText hname rest) _) ?_
  refine .cons rfl rfl
    (fun rest _ => Field.read_of (readInstant_writeInstant s.timestamp rest) _) ?_
  exact .nil _

end DeliveryStatus

end Reminders
