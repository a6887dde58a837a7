import Reminders.Bus.Topic
import Reminders.Json.Reader
import Reminders.Text.Quoted

/-!
# Bus — channels

A channel publishes messages to one exchange.  Bindings attach queues to the exchange: a message
goes once to each queue that has a binding whose pattern matches the routing key, and nowhere if
there is none.  A queue has at most one consumer ever, so its stream of messages is named by the
queue.
-/

namespace Reminders

/-- Why a channel does not do what it is asked for. -/
inductive ChannelError where
  | closed
  | alreadyConsuming (queue : String)
  | unknownQueue (queue : String)
  | backend (detail : String)
deriving DecidableEq

/-- The text that reports an error of a channel. -/
def ChannelError.message : ChannelError → String
  | .closed => "channel is closed"
  | .alreadyConsuming queue => "queue " ++ queue ++ " already has a consumer"
  | .unknownQueue queue => "unknown queue: " ++ queue
  | .backend detail => "bus backend error: " ++ detail

/-- Attaches a queue to the exchange for the keys that match a pattern. -/
structure Binding where
  queue : String
  pattern : String
deriving DecidableEq

/-- The binding as it is shown in messages. -/
def Binding.display (b : Binding) : String :=
  "Binding \x7b queue: " ++ Text.quoted b.queue ++ ", pattern: " ++ Text.quoted b.pattern ++ " \x7d"

/-- Puts a text into a sorted list without repetitions. -/
def insertSorted (s : String) : List String → List String
  | [] => [s]
  | t :: ts => if s < t then s :: t :: ts else if s = t then t :: ts else t :: insertSorted s ts

/-- The distinct queues of some bindings, by name. -/
def queuesOf (bindings : List Binding) : List String :=
  bindings.foldr (fun b queues => insertSorted b.queue queues) []

/-- The queues that get a message with the given key, by name. -/
def route (bindings : List Binding) (key : String) : List String :=
  queuesOf (bindings.filter fun b => Topic.isMatch b.pattern key)

/-- The operations of a channel. -/
structure NotificationChannel (m : Type → Type) where
  /-- Hands a message to every queue that its key is routed to. -/
  publish (key : String) (body : Bytes) : m (Except ChannelError Unit)
  /-- Attaches a consumer to a queue. -/
  consume (queue : String) : m (Except ChannelError Unit)
  /-- Ends the streams of all consumers. -/
  close : m (Except ChannelError Unit)

/-- The same channel seen from another monad. -/
def NotificationChannel.lift {m n : Type → Type} (f : {α : Type} → m α → n α)
    (channel : NotificationChannel m) : NotificationChannel n where
  publish key body := f (channel.publish key body)
  consume queue := f (channel.consume queue)
  close := f channel.close

end Reminders
