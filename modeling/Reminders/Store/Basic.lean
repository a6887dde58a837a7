import Reminders.Event.Basic

/-!
# Store — keeping events

A store keeps the events of all users and guarantees that no two events of one user overlap.  It is
given by its operations in some monad, so the scheduler and the API run over any store.  A new event
without an id is stored under a fresh one, which the caller provides.

All listings are in the order of `Event.sort`.
-/

namespace Reminders

/-- Why a store does not do what it is asked for. -/
inductive StoreError where
  | notFound (id : String)
  | alreadyExists (id : String)
  /-- The event `id` would overlap the event `conflictingId` of the same user. -/
  | conflictOverlap (id conflictingId : String)
  | database (detail : String)
  | serialization (detail : String)
deriving DecidableEq

/-- The text that reports an error of a store. -/
def StoreError.message : StoreError → String
  | .notFound id => "event not found: " ++ id
  | .alreadyExists id => "event already exists: " ++ id
  | .conflictOverlap id conflictingId => "event " ++ id ++ " overlaps event " ++ conflictingId
  | .database detail => "database error: " ++ detail
  | .serialization detail => "serialization error: " ++ detail

/-- The operations of a store. -/
structure EventStore (m : Type → Type) where
  /-- Adds an event, under the fresh id if it has none, and returns its id. -/
  create (fresh : String) (e : Event) : m (Except StoreError String)
  /-- Replaces the event with the same id. -/
  update (e : Event) : m (Except StoreError Unit)
  delete (id : String) : m (Except StoreError Unit)
  /-- Removes the events that ended before `cutoff` and returns their number. -/
  deleteOlderThan (cutoff : Instant) : m (Except StoreError Nat)
  get (id : String) : m (Except StoreError Event)
  list : m (Except StoreError (List Event))
  listByUser (userId : String) : m (Except StoreError (List Event))
  /-- The events of a user that share an instant with the time between `first` and `last`. -/
  listByUserInRange (userId : String) (first last : Instant) : m (Except StoreError (List Event))
  /-- The events whose notification is due after `now` and not after `before`. -/
  listDueBefore (now before : Instant) : m (Except StoreError (List Event))

/-- The event with the id under which it is stored. -/
def Event.identified (fresh : String) (e : Event) : Event :=
  if e.id.isEmpty then { e with id := fresh } else e

/-- One operation with its arguments. -/
inductive StoreOperation where
  | create (fresh : String) (e : Event)
  | update (e : Event)
  | delete (id : String)
  | deleteOlderThan (cutoff : Instant)
  | get (id : String)
  | list
  | listByUser (userId : String)
  | listByUserInRange (userId : String) (first last : Instant)
  | listDueBefore (now before : Instant)

/-- What an operation returns. -/
inductive StoreAnswer where
  | created (id : String)
  | done
  | removed (count : Nat)
  | event (e : Event)
  | events (es : List Event)
deriving DecidableEq

namespace EventStore

variable {m : Type → Type}

/-- Performs one operation. -/
def perform [Functor m] (store : EventStore m) :
    StoreOperation → m (Except StoreError StoreAnswer)
  | .create fresh e => (fun r => r.map .created) <$> store.create fresh e
  | .update e => (fun r => r.map fun _ => .done) <$> store.update e
  | .delete id => (fun r => r.map fun _ => .done) <$> store.delete id
  | .deleteOlderThan cutoff => (fun r => r.map .removed) <$> store.deleteOlderThan cutoff
  | .get id => (fun r => r.map .event) <$> store.get id
  | .list => (fun r => r.map .events) <$> store.list
  | .listByUser userId => (fun r => r.map .events) <$> store.listByUser userId
  | .listByUserInRange userId first last =>
    (fun r => r.map .events) <$> store.listByUserInRange userId first last
  | .listDueBefore now before => (fun r => r.map .events) <$> store.listDueBefore now before

/-- The same store seen from another monad. -/
def lift {n : Type → Type} (f : {α : Type} → m α → n α) (store : EventStore m) : EventStore n where
  create fresh e := f (store.create fresh e)
  update e := f (store.update e)
  delete id := f (store.delete id)
  deleteOlderThan cutoff := f (store.deleteOlderThan cutoff)
  get id := f (store.get id)
  list := f store.list
  listByUser userId := f (store.listByUser userId)
  listByUserInRange userId first last := f (store.listByUserInRange userId first last)
  listDueBefore now before := f (store.listDueBefore now before)

/-- Two stores side by side, of which `f` selects one at each operation. -/
def choose {n k : Type → Type} (f : {α : Type} → m α → n α → k α) (a : EventStore m)
    (b : EventStore n) : EventStore k where
  create fresh e := f (a.create fresh e) (b.create fresh e)
  update e := f (a.update e) (b.update e)
  delete id := f (a.delete id) (b.delete id)
  deleteOlderThan cutoff := f (a.deleteOlderThan cutoff) (b.deleteOlderThan cutoff)
  get id := f (a.get id) (b.get id)
  list := f a.list b.list
  listByUser userId := f (a.listByUser userId) (b.listByUser userId)
  listByUserInRange userId first last :=
    f (a.listByUserInRange userId first last) (b.listByUserInRange userId first last)
  listDueBefore now before := f (a.listDueBefore now before) (b.listDueBefore now before)

end EventStore

end Reminders
