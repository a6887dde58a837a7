import Reminders.Bus.Backend
import Reminders.Scheduler.Run
import Reminders.Sender.Handle
import Reminders.Store.Backend

/-!
# Deployment — all parts together

One store, the bus of the notifications and the bus of the statuses.  A scheduler watches the store
and publishes to the first bus; a sender consumes a queue of it and publishes to the second.
-/

namespace Reminders

open Database

/-- The parts that the scheduler and the sender share. -/
structure Deployment where
  storage : Storage
  /-- The bus of the notifications. -/
  bus : Bus
  /-- The bus of the delivery statuses. -/
  statuses : Bus

namespace Deployment

/-- Work on a deployment. -/
abbrev Work := StateT Deployment Dialogue

variable {α : Type}

/-- Work on the store of a deployment. -/
def onStorage (work : StateT Storage Dialogue α) : Work α := fun d =>
  (fun (a, storage) => (a, { d with storage := storage })) <$> work d.storage

/-- Work on the bus of the notifications. -/
def onBus (work : StateT Bus Dialogue α) : Work α := fun d =>
  (fun (a, bus) => (a, { d with bus := bus })) <$> work d.bus

/-- Work on the bus of the statuses. -/
def onStatuses (work : StateT Bus Dialogue α) : Work α := fun d =>
  (fun (a, statuses) => (a, { d with statuses := statuses })) <$> work d.statuses

/-- The store. -/
def store : EventStore Work :=
  Storage.store.lift onStorage

/-- The scheduler. -/
def scheduler (config : SchedulerConfig) : Scheduler Work where
  store := store
  channel := Bus.channel.lift onBus
  config := config

/-- The sender, with the reading that its clock shows. -/
def sender (now : Instant) : Sender Work where
  statuses := Bus.channel.lift onStatuses
  clock := pure now

/-- The sender works on the messages that wait in a queue to which it is attached, until there are
no more or until it is told to stop, and lets go of the queue. -/
def drain (now : Instant) (queue : String) (isShutdown : Bool) : Work SenderReport := do
  let d ← get
  let limit := if isShutdown then 0 else d.bus.waiting queue + 1
  let ((bodies, isEnded), bus) := d.bus.receiveAll unreachable queue limit
  set { d with bus := bus }
  let ending : Loop.Ending :=
    if isShutdown then .beforehand else if isEnded then .exhaust else .shutdown
  let report ← (sender now).process ending.start (Loop.course bodies ending)
  onBus fun bus => .done ((), bus.detach queue)
  return report

/-- The sender attaches to a queue and works on the messages that wait in it. -/
def attendTo (now : Instant) (queue : String) (isShutdown : Bool) :
    Work (Except ChannelError SenderReport) := do
  match ← onBus (Bus.channel.consume queue) with
  | .error error => return .error error
  | .ok () => return .ok (← drain now queue isShutdown)

/-- The sender works on all that a queue in a database brings, when its polls get the given replies
in turn and then find nothing, and is then told to stop. -/
def relay (now : Instant) (queue : String) (replies : List Reply) : Work SenderReport := do
  let d ← get
  match d.bus with
  | .memory _ => drain now queue false
  | .database b =>
    let count := Reply.total replies
    let ((bodies, _), b, _) :=
      b.await .nothing queue (count + replies.length + 1) count replies
    set { d with bus := .database b }
    (sender now).process (.start false) (Loop.course bodies .shutdown)

/-- Does some work where no database can be reached; work that halts changes nothing. -/
def runAlone (work : Work α) (d : Deployment) : Option α × Deployment :=
  match (work d).alone with
  | some (a, d) => (some a, d)
  | none => (none, d)

end Deployment

end Reminders
