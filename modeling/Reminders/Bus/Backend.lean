import Reminders.Bus.Config
import Reminders.Bus.Database
import Reminders.Bus.Memory
import Reminders.Database.Network

/-!
# Bus — backends

The bus of a program is held in memory or in a database, as its settings say.  A bus in a database
has one running consumer for each queue that was attached.
-/

namespace Reminders

open Database

/-! ### A channel in a database with its consumers -/

/-- A channel in a database with the consumers of its queues. -/
structure DatabaseBus where
  channel : DatabaseChannel
  /-- The consumers by queue, in the order in which they came. -/
  consumers : List (String × Consumer)

namespace DatabaseBus

/-- A bus without consumers. -/
def ofConfig (c : BusConfig) : DatabaseBus where
  channel := .ofBindings c.exchange c.effectiveBindings c.poller
  consumers := []

/-- Attaches the consumer of a queue and starts it. -/
def consume (queue : String) (b : DatabaseBus) :
    Dialogue (Except ChannelError Unit × DatabaseBus) := do
  let (work, channel) := b.channel.consume queue
  match ← work with
  | .error error => return (.error error, { b with channel := channel })
  | .ok () =>
    return (.ok (), ⟨channel, b.consumers ++ [(queue, .start channel queue)]⟩)

/-- Something happens to the consumer of a queue. -/
def happen (event : ConsumerEvent) (queue : String) (b : DatabaseBus) : DatabaseBus :=
  { b with consumers := b.consumers.map fun (q, c) =>
      (q, if q = queue then (c.step event).getD c else c) }

/-- Closes the channel and tells every consumer. -/
def close (b : DatabaseBus) : Except ChannelError Unit × DatabaseBus :=
  let (result, channel) := b.channel.close
  (result, ⟨channel, b.consumers.map fun (q, c) => (q, (c.step .shutdown).getD c)⟩)

/-- The channel of a bus over its state and dialogues. -/
def operations : NotificationChannel (StateT DatabaseBus Dialogue) where
  publish key body := fun b => (fun r => (r, b)) <$> b.channel.publish key body
  consume queue := fun b => b.consume queue
  close := fun b => .done b.close

/-- Every consumer runs as far as possible, one after the other; polls get the given replies in
turn and then always `last`. -/
def settle (last : Reply) (b : DatabaseBus) (replies : List Reply) : DatabaseBus × List Reply :=
  let (consumers, rest) := b.consumers.foldl (fun (done, replies) (q, c) =>
    let (c, replies) := c.settle last replies
    (done ++ [(q, c)], replies)) ([], replies)
  ({ b with consumers := consumers }, rest)

/-- Lets the intervals of all consumers pass. -/
def passIntervals (b : DatabaseBus) : DatabaseBus :=
  { b with consumers := b.consumers.map fun (q, c) => (q, c.passInterval) }

/-- Takes the next message out of the stream of a queue. -/
def receive (queue : String) (b : DatabaseBus) : Received × DatabaseBus :=
  match b.consumers.lookup queue with
  | none => (.ended, b)
  | some c =>
    match c.buffer with
    | body :: _ => (.message body, b.happen .read queue)
    | [] => (if c.isEnded then .ended else .nothing, b)

/-- The consumer of a queue loses its reader. -/
def detach (queue : String) (b : DatabaseBus) : DatabaseBus :=
  b.happen .dropReader queue

/-- The messages of a queue up to the given number, and whether the stream ended before it; while
there is none, intervals pass.  Each of the `fuel` rounds takes a message or lets an interval
pass. -/
def await (last : Reply) (queue : String) : Nat → Nat → DatabaseBus → List Reply →
    (List Bytes × Bool) × DatabaseBus × List Reply
  | 0, _, b, replies => (([], false), b, replies)
  | _, 0, b, replies => (([], false), b, replies)
  | fuel + 1, count + 1, b, replies =>
    let (b, replies) := b.settle last replies
    match b.receive queue with
    | (.message body, b) =>
      let ((bodies, isEnded), rest) := await last queue fuel count b replies
      ((body :: bodies, isEnded), rest)
    | (.ended, b) => (([], true), b, replies)
    | (.nothing, b) => await last queue fuel (count + 1) b.passIntervals replies

/-- Lets intervals pass until the replies to polls are used up.  Each of the `fuel` rounds is an
interval. -/
def exhaust (last : Reply) : Nat → DatabaseBus → List Reply → DatabaseBus × List Reply
  | 0, b, replies => (b, replies)
  | fuel + 1, b, replies =>
    let (b, replies) := b.settle last replies
    if replies.isEmpty then (b, replies) else exhaust last fuel b.passIntervals replies

end DatabaseBus

/-! ### A bus of either kind -/

/-- A bus of either kind. -/
inductive Bus where
  | memory (c : MemoryChannel)
  | database (b : DatabaseBus)

namespace Bus

/-- The bus that the settings describe. -/
def connect (network : Network) (c : BusConfig) : Setup ChannelError Bus :=
  match c.kind, c.url with
  | .memory, _ => return .memory (.ofBindings c.exchange c.effectiveBindings)
  | .postgres, none => throw (.backend "postgres bus requires a database url")
  | .postgres, some url => do
    prepare network .backend url c.migrate .messages
    return .database (.ofConfig c)

/-- An operation on whichever channel there is. -/
def onEither {α : Type} (memory : StateM MemoryChannel α)
    (database : StateT DatabaseBus Dialogue α) : StateT Bus Dialogue α
  | .memory c => .done ((memory c).1, .memory (memory c).2)
  | .database b => (fun r => (r.1, .database r.2)) <$> database b

/-- A bus of either kind as a channel over its state. -/
def channel : NotificationChannel (StateT Bus Dialogue) where
  publish key body :=
    onEither (MemoryChannel.channel.publish key body) (DatabaseBus.operations.publish key body)
  consume queue :=
    onEither (MemoryChannel.channel.consume queue) (DatabaseBus.operations.consume queue)
  close := onEither MemoryChannel.channel.close DatabaseBus.operations.close

/-- Takes the next message of a queue for its consumer, after the consumers have run as far as
possible with a database that always replies `last` to polls. -/
def receive (last : Reply) (queue : String) : Bus → Received × Bus
  | .memory c =>
    let (received, c) := c.receive queue
    (received, .memory c)
  | .database b =>
    let (received, b) := (b.settle last []).1.receive queue
    (received, .database b)

/-- The consumer of a queue goes away. -/
def detach (queue : String) : Bus → Bus
  | .memory c => .memory (c.detach queue)
  | .database b => .database (b.detach queue)

/-- The number of messages that wait for the consumer of a queue. -/
def waiting (queue : String) : Bus → Nat
  | .memory c => (c.queues[queue]?.map fun q => q.pending.length).getD 0
  | .database b => ((b.consumers.lookup queue).map fun c => c.buffer.length + c.held.length).getD 0

/-- The messages of a queue that are there now, up to the given number, and whether the stream
ended before it. -/
def receiveAll (last : Reply) (queue : String) : Nat → Bus → (List Bytes × Bool) × Bus
  | 0, b => (([], false), b)
  | count + 1, b =>
    match b.receive last queue with
    | (.message body, b) =>
      let ((bodies, isEnded), b) := receiveAll last queue count b
      ((body :: bodies, isEnded), b)
    | (.ended, b) => (([], true), b)
    | (.nothing, b) => (([], false), b)

end Bus

end Reminders
