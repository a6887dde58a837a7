import Reminders.Database.Network
import Reminders.Store.Config
import Reminders.Store.Database
import Reminders.Store.Memory

/-!
# Store — backends

The store of a program is held in memory or in a database, as its settings say.
-/

namespace Reminders

open Database

/-- A store of either kind; what a database holds is not part of the program. -/
inductive Storage where
  | memory (s : MemoryStore)
  | database

namespace Storage

/-- The store that the settings describe. -/
def connect (network : Network) (c : StorageConfig) : Setup StoreError Storage :=
  match c.kind, c.url with
  | .memory, _ => return .memory .empty
  | .postgres, none => throw (.database "postgres storage requires a database url")
  | .postgres, some url => do
    prepare network .database url c.migrate .events
    return .database

/-- The name by which a store is reported. -/
def name : Storage → String
  | .memory _ => BackendKind.memory.name
  | .database => BackendKind.postgres.name

/-- The store is lost when the program ends. -/
def isTransient : Storage → Bool
  | .memory _ => true
  | .database => false

/-- An operation on whichever store there is. -/
def onEither {α : Type} (memory : StateM MemoryStore α) (database : Dialogue α) :
    StateT Storage Dialogue α
  | .memory s => .done ((memory s).1, .memory (memory s).2)
  | .database => (fun a => (a, .database)) <$> database

/-- A store of either kind as a store over its state. -/
def store : EventStore (StateT Storage Dialogue) :=
  EventStore.choose onEither MemoryStore.store DatabaseStore.store

end Storage

end Reminders
