import Reminders.Bus.Channel
import Reminders.Bus.Poller
import Reminders.Database.Dialogue

/-!
# Bus — in a database

A message is one row for each queue that it is routed to; the rows are written in one transaction.
A consumer polls its queue: each poll takes the oldest rows out of the table.  The messages taken
are put one by one into the stream of the consumer, which holds no more than a batch; while it is
full, the rest of the batch waits outside.

The consumer is a machine whose steps are triggered by events, so that a run is a list of events in
any order: replies of the database, room in the stream, the end of a wait, the reader, the shutdown.
-/

namespace Reminders

open Database

/-! ### Publishing and attaching -/

/-- A channel in a database. -/
structure DatabaseChannel where
  exchange : String
  bindings : List Binding
  poller : PollerConfig
  isClosed : Bool
  /-- The queues that have or had a consumer. -/
  taken : List String

namespace DatabaseChannel

/-- A channel without consumers. -/
def ofBindings (exchange : String) (bindings : List Binding) (poller : PollerConfig) :
    DatabaseChannel where
  exchange := exchange
  bindings := bindings
  poller := poller
  isClosed := false
  taken := []

/-- A statement failed. -/
def failed (code : String) : ChannelError :=
  .backend (failureText code)

/-- Writes the rows of a message, one for each queue, until one fails. -/
def insertAll (exchange key : String) (body : Bytes) :
    List String → Dialogue (Except ChannelError Unit)
  | [] => .done (.ok ())
  | queue :: queues => do
    match ← Dialogue.query .insertMessage
        [.text exchange, .text queue, .text key, .bytes body] with
    | .failure code => return .error (failed code)
    | _ => insertAll exchange key body queues

/-- Hands a message to the queues that its key is routed to. -/
def publish (key : String) (body : Bytes) (c : DatabaseChannel) :
    Dialogue (Except ChannelError Unit) :=
  if c.isClosed then .done (.error .closed)
  else
    let queues := route c.bindings key
    if queues.isEmpty then .done (.ok ())
    else Dialogue.transaction failed (insertAll c.exchange key body queues)

/-- The greatest number of messages that a stream can be made for. -/
def maxCapacity : Nat := (bound64 - 1) / 8

/-- The number of messages that a stream holds. -/
def capacity (c : DatabaseChannel) : Nat :=
  max c.poller.batchSize 1

/-- Attaches the consumer of a queue.  The task halts if its stream cannot be made, and the queue
stays taken. -/
def consume (queue : String) (c : DatabaseChannel) :
    Dialogue (Except ChannelError Unit) × DatabaseChannel :=
  if c.isClosed then (.done (.error .closed), c)
  else if !c.bindings.any fun b => b.queue == queue then
    (.done (.error (.unknownQueue queue)), c)
  else if c.taken.contains queue then (.done (.error (.alreadyConsuming queue)), c)
  else
    let c' := { c with taken := queue :: c.taken }
    if maxCapacity < c.capacity then (.halt, c') else (.done (.ok ()), c')

/-- Closes the channel. -/
def close (c : DatabaseChannel) : Except ChannelError Unit × DatabaseChannel :=
  (.ok (), { c with isClosed := true })

/-- A channel in a database as a channel over its state and dialogues. -/
def channel : NotificationChannel (StateT DatabaseChannel Dialogue) where
  publish key body := fun c => (fun r => (r, c)) <$> c.publish key body
  consume queue := fun c =>
    let (d, c') := c.consume queue
    (fun r => (r, c')) <$> d
  close := fun c => .done c.close

end DatabaseChannel

/-! ### Polling -/

/-- The poller of a queue. -/
structure Poller where
  queue : String
  config : PollerConfig
  /-- The interval until the next poll in nanoseconds. -/
  interval : Nat
deriving DecidableEq

namespace Poller

/-- A poller at its shortest interval. -/
def start (queue : String) (config : PollerConfig) : Poller :=
  ⟨queue, config, config.minInterval⟩

/-- The interval after an idle or failed poll. -/
def backOff (p : Poller) : Poller :=
  { p with interval := p.config.nextInterval p.interval }

/-- The interval after a poll that found messages. -/
def reset (p : Poller) : Poller :=
  { p with interval := p.config.minInterval }

/-- The statement that takes the oldest messages of the queue. -/
def claim (p : Poller) : Statement :=
  .query .claimMessages
    [.text p.queue, .integer (min p.config.batchSize 9223372036854775807 : Nat)]

/-- The number and the message in a row. -/
def messageOfRow : Row → Option (Int × Bytes)
  | [.integer id, .bytes body] => some (id, body)
  | _ => none

/-- The messages of a reply, by the number of their rows; there are none to tell of if the
statement failed or a row cannot be read. -/
def messagesOf (reply : Reply) : Except String (List Bytes) :=
  match reply with
  | .failure code => .error (failureText code)
  | reply =>
    match reply.found.mapM messageOfRow with
    | some messages =>
      .ok ((messages.mergeSort fun a b => decide (a.1 ≤ b.1)).map Prod.snd)
    | none => .error (columnText "id or body")

/-- Takes the reply to a poll.  A failed poll leaves the interval as it is. -/
def absorb (p : Poller) (reply : Reply) : Except String (List Bytes) × Poller :=
  match messagesOf reply with
  | .error detail => (.error detail, p)
  | .ok [] => (.ok [], p.backOff)
  | .ok messages => (.ok messages, p.reset)

/-- Polls the queue; after the shutdown nothing is sent and nothing changes. -/
def poll (isShutdown : Bool) (p : Poller) : Dialogue (Except String (List Bytes) × Poller) :=
  if isShutdown then .done (.ok [], p)
  else .ask p.claim fun reply => .done (p.absorb reply)

/-- Waits for the interval: the milliseconds that pass, of which the last may be begun only, and
whether the shutdown ends the wait.  After the shutdown no time passes. -/
def wait (isShutdown : Bool) (p : Poller) : Nat × Bool :=
  if isShutdown then (0, true) else ((p.interval + 999999) / 1000000, false)

end Poller

/-! ### Consuming -/

/-- What a consumer is doing. -/
inductive ConsumerPhase where
  /-- It is about to poll. -/
  | polling
  /-- It has sent the statement of a poll. -/
  | awaiting
  /-- It puts the rest of a batch into the stream. -/
  | forwarding (rest : List Bytes)
  /-- It waits for its interval to pass. -/
  | waiting
  /-- It has stopped; the stream ends after what it holds. -/
  | stopped
deriving DecidableEq

/-- A consumer of a queue with its stream. -/
structure Consumer where
  poller : Poller
  phase : ConsumerPhase
  /-- The number of messages that the stream holds at most. -/
  capacity : Nat
  /-- The messages in the stream. -/
  buffer : List Bytes
  /-- The reader has dropped the stream. -/
  readerGone : Bool
  isShutdown : Bool
deriving DecidableEq

/-- What may happen to a consumer. -/
inductive ConsumerEvent where
  /-- It polls. -/
  | poll
  /-- The database answers the poll. -/
  | reply (reply : Reply)
  /-- It notices the shutdown in place of a poll. -/
  | skipPoll
  /-- It puts a message into the stream. -/
  | forward
  /-- It has put the whole batch into the stream. -/
  | batchDone
  /-- It finds that the reader is gone. -/
  | noticeReaderGone
  /-- It notices the shutdown while it puts messages into the stream or waits. -/
  | noticeShutdown
  /-- Its interval has passed. -/
  | wake
  /-- The reader takes the next message. -/
  | read
  /-- The reader drops the stream. -/
  | dropReader
  /-- The channel is closed. -/
  | shutdown
deriving DecidableEq

namespace Consumer

/-- The consumer of a queue of a channel. -/
def start (c : DatabaseChannel) (queue : String) : Consumer where
  poller := .start queue c.poller
  phase := .polling
  capacity := c.capacity
  buffer := []
  readerGone := false
  isShutdown := c.isClosed

/-- The consumer after an event, if the event is possible. -/
def step (c : Consumer) : ConsumerEvent → Option Consumer
  | .poll =>
    if c.phase = .polling ∧ !c.isShutdown then some { c with phase := .awaiting } else none
  | .reply reply =>
    if c.phase = .awaiting then
      match c.poller.absorb reply with
      | (.ok messages, p) => some { c with poller := p, phase := .forwarding messages }
      | (.error _, p) => some { c with poller := p.backOff, phase := .waiting }
    else none
  | .skipPoll =>
    if c.phase = .polling ∧ c.isShutdown then some { c with phase := .forwarding [] } else none
  | .forward =>
    match c.phase with
    | .forwarding (body :: rest) =>
      if !c.readerGone && c.buffer.length < c.capacity then
        some { c with phase := .forwarding rest, buffer := c.buffer ++ [body] }
      else none
    | _ => none
  | .batchDone => if c.phase = .forwarding [] then some { c with phase := .waiting } else none
  | .noticeReaderGone =>
    match c.phase with
    | .forwarding (_ :: _) => if c.readerGone then some { c with phase := .stopped } else none
    | _ => none
  | .noticeShutdown =>
    match c.phase with
    | .forwarding (_ :: _) | .waiting =>
      if c.isShutdown then some { c with phase := .stopped } else none
    | _ => none
  | .wake =>
    if c.phase = .waiting then some { c with phase := .polling } else none
  | .read =>
    match c.buffer with
    | _ :: rest => if c.readerGone then none else some { c with buffer := rest }
    | [] => none
  | .dropReader => if c.readerGone then none else some { c with readerGone := true, buffer := [] }
  | .shutdown => some { c with isShutdown := true }

/-- The stream is at its end. -/
def isEnded (c : Consumer) : Bool :=
  c.phase = .stopped && c.buffer.isEmpty

/-- The messages that an event takes out of the table. -/
def claimed (c : Consumer) : ConsumerEvent → List Bytes
  | .reply reply =>
    match c.poller.absorb reply with
    | (.ok messages, _) => messages
    | (.error _, _) => []
  | _ => []

/-- The message that an event hands to the reader. -/
def yielded (c : Consumer) : ConsumerEvent → List Bytes
  | .read => c.buffer.head?.toList
  | _ => []

/-- The consumer after some events, if they are possible in this order. -/
def run (c : Consumer) (events : List ConsumerEvent) : Option Consumer :=
  events.foldlM step c

/-! ### Running as far as possible -/

/-- The next event that needs neither time nor anyone else. -/
def prompt? (c : Consumer) : Option ConsumerEvent :=
  match c.phase with
  | .polling => some (if c.isShutdown then .skipPoll else .poll)
  | .forwarding [] => some .batchDone
  | .forwarding (_ :: _) =>
    if c.readerGone then some .noticeReaderGone
    else if c.buffer.length < c.capacity then some .forward
    else if c.isShutdown then some .noticeShutdown
    else none
  | .waiting => if c.isShutdown then some .noticeShutdown else none
  | .awaiting | .stopped => none

/-- Runs as far as possible without letting time pass.  Polls get the given replies in turn, and
then always `last`; the replies left over are returned.  Each of the `fuel` rounds is an event. -/
def advance (last : Reply) : Nat → Consumer → List Reply → Consumer × List Reply
  | 0, c, replies => (c, replies)
  | fuel + 1, c, replies =>
    if c.phase = .awaiting then
      advance last fuel ((c.step (.reply (replies.headD last))).getD c) replies.tail
    else match c.prompt? with
    | some event => advance last fuel ((c.step event).getD c) replies
    | none => (c, replies)

/-- The messages that wait outside the stream. -/
def held (c : Consumer) : List Bytes :=
  match c.phase with
  | .forwarding rest => rest
  | _ => []

/-- Runs as far as possible. -/
def settle (last : Reply) (c : Consumer) (replies : List Reply) : Consumer × List Reply :=
  c.advance last (c.held.length + Reply.total (last :: replies) + 8) replies

/-- Lets the interval pass, if the consumer waits for it. -/
def passInterval (c : Consumer) : Consumer :=
  (c.step .wake).getD c

end Consumer

end Reminders
