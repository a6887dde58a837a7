import Reminders.Bus.Channel
import Reminders.Loop
import Reminders.Notification

/-!
# Sender — handling messages

The sender takes notifications from a queue and acknowledges each with a delivery status.  A message
that is no notification is dropped, and a status that cannot be published is lost; both are counted
and neither stops the sender.
-/

namespace Reminders

/-- Why a message is not acknowledged. -/
inductive SenderError where
  /-- The message is no notification. -/
  | undecodable (fault : Json.Fault)
  /-- The status was not published. -/
  | unpublished (error : ChannelError)
deriving DecidableEq

/-- The text that reports an error. -/
def SenderError.message : SenderError → String
  | .undecodable _ => "invalid notification"
  | .unpublished error => "failed to publish status: " ++ error.message

/-- What became of the messages that a sender took. -/
structure SenderReport where
  /-- The number of messages taken. -/
  received : Nat := 0
  /-- The number of statuses published. -/
  acknowledged : Nat := 0
  /-- The number of messages that are no notifications. -/
  dropped : Nat := 0
  /-- The number of statuses that were not published. -/
  failed : Nat := 0
deriving DecidableEq

/-- The report with one more message. -/
def SenderReport.add (r : SenderReport) :
    Except SenderError DeliveryStatus → SenderReport
  | .ok _ => { r with received := r.received + 1, acknowledged := r.acknowledged + 1 }
  | .error (.undecodable _) => { r with received := r.received + 1, dropped := r.dropped + 1 }
  | .error (.unpublished _) => { r with received := r.received + 1, failed := r.failed + 1 }

/-- A sender: the channel that gets the statuses, and the clock that stamps them. -/
structure Sender (m : Type → Type) where
  statuses : NotificationChannel m
  clock : m Instant

namespace Sender

variable {m : Type → Type} [Monad m]

/-- Handles one message: reads the notification, and publishes its status. -/
def handle (s : Sender m) (body : Bytes) : m (Except SenderError DeliveryStatus) :=
  match Notification.decode body with
  | .error fault => pure (.error (.undecodable fault))
  | .ok n => do
    let status := DeliveryStatus.delivered n (← s.clock)
    match ← s.statuses.publish DeliveryStatus.routingKey status.encode with
    | .error error => return .error (.unpublished error)
    | .ok () => return .ok status

/-- Handles one message and counts it. -/
def count (s : Sender m) (body : Bytes) : StateT SenderReport m Unit := do
  let result ← s.handle body
  modify fun r => r.add result

/-- Handles the messages that the loop takes in some events, and reports on them. -/
def process (s : Sender m) (l : Loop Bytes) (events : List (LoopEvent Bytes)) :
    m SenderReport := do
  let (_, report) ← (l.perform s.count events).run {}
  return report

end Sender

end Reminders
