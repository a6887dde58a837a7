import Std.Data.ExtTreeMap
import Reminders.Bus.Channel

/-!
# Bus — in memory

Each bound queue holds its messages in order until its only consumer takes them.  Messages wait
for a consumer that has not come yet, and are dropped once it is gone.  Closing the channel refuses
further messages and consumers; a consumer still gets what its queue holds, and then the end.
-/

namespace Reminders

/-- The consumer of a queue. -/
inductive Attachment where
  /-- None has come yet. -/
  | free
  | attached
  /-- It came and went. -/
  | gone
deriving DecidableEq

/-- A queue in memory. -/
structure MemoryQueue where
  pending : List Bytes
  consumer : Attachment
deriving DecidableEq

/-- A channel in memory. -/
structure MemoryChannel where
  exchange : String
  bindings : List Binding
  queues : Std.ExtTreeMap String MemoryQueue
  isClosed : Bool

/-- What a consumer gets from its queue. -/
inductive Received where
  | message (body : Bytes)
  /-- There is no message now. -/
  | nothing
  /-- There is none any more. -/
  | ended
deriving DecidableEq

namespace MemoryChannel

/-- A channel whose bound queues are empty. -/
def ofBindings (exchange : String) (bindings : List Binding) : MemoryChannel where
  exchange := exchange
  bindings := bindings
  queues := (queuesOf bindings).foldl (fun m queue => m.insert queue ⟨[], .free⟩) ∅
  isClosed := false

/-- A queue with one more message, unless its consumer is gone. -/
def deliver (body : Bytes) (q : MemoryQueue) : MemoryQueue :=
  if q.consumer = .gone then q else { q with pending := q.pending ++ [body] }

/-- Hands a message to the queues that its key is routed to. -/
def publish (key : String) (body : Bytes) (c : MemoryChannel) :
    Except ChannelError Unit × MemoryChannel :=
  if c.isClosed then (.error .closed, c)
  else
    (.ok (), { c with
      queues := (route c.bindings key).foldl (fun m queue => m.modify queue (deliver body))
        c.queues })

/-- Attaches the consumer of a queue. -/
def consume (queue : String) (c : MemoryChannel) : Except ChannelError Unit × MemoryChannel :=
  if c.isClosed then (.error .closed, c)
  else match c.queues[queue]? with
    | none => (.error (.unknownQueue queue), c)
    | some q =>
      if q.consumer = .free then
        (.ok (), { c with queues := c.queues.insert queue { q with consumer := .attached } })
      else (.error (.alreadyConsuming queue), c)

/-- Closes the channel. -/
def close (c : MemoryChannel) : Except ChannelError Unit × MemoryChannel :=
  (.ok (), { c with isClosed := true })

/-- Takes the next message of a queue for its consumer. -/
def receive (queue : String) (c : MemoryChannel) : Received × MemoryChannel :=
  match c.queues[queue]? with
  | some ⟨body :: rest, .attached⟩ =>
    (.message body, { c with queues := c.queues.insert queue ⟨rest, .attached⟩ })
  | some ⟨[], .attached⟩ => (if c.isClosed then .ended else .nothing, c)
  | _ => (.ended, c)

/-- The consumer of a queue goes away; what the queue holds is lost. -/
def detach (queue : String) (c : MemoryChannel) : MemoryChannel :=
  { c with queues := c.queues.modify queue fun _ => ⟨[], .gone⟩ }

/-- A channel in memory as a channel over its state. -/
def channel : NotificationChannel (StateM MemoryChannel) where
  publish key body := fun c => publish key body c
  consume queue := fun c => consume queue c
  close := fun c => close c

end MemoryChannel

end Reminders
