import Std.Data.ExtTreeMap
import Reminders.Store.Basic

/-!
# Store — in memory

The events are held in a map from ids.  Each operation is one step: creating and replacing an event
check for an overlap and write without an interruption.  The order in which they look through the
stored events decides which overlap they report; it is the order of ids here, and any other would do.
An operation that fails leaves the store as it was.
-/

namespace Reminders

/-- The events of a store in memory, by id. -/
structure MemoryStore where
  events : Std.ExtTreeMap String Event

namespace MemoryStore

/-- The store without events. -/
def empty : MemoryStore := ⟨∅⟩

/-- The number of events. -/
def size (s : MemoryStore) : Nat :=
  s.events.size

/-- The stored events, by id. -/
def values (s : MemoryStore) : List Event :=
  s.events.toList.map Prod.snd

/-- The stored events that exclude the candidate. -/
def conflicts (s : MemoryStore) (candidate : Event) : List Event :=
  s.values.filter candidate.conflictsWith

/-- The stored events with a property, in the order of listings. -/
def collect (s : MemoryStore) (p : Event → Bool) : List Event :=
  Event.sort (s.values.filter p)

/-- The store after writing an event, unless one of the stored events excludes it.  These are given
in the order in which they are looked through. -/
def writeAmong (stored : List Event) (s : MemoryStore) (e : Event) :
    Except StoreError MemoryStore :=
  match e.findConflict stored with
  | some other => .error (.conflictOverlap e.id other.id)
  | none => .ok ⟨s.events.insert e.id e⟩

/-- Adds an event, where the stored events are looked through in the given order. -/
def createAmong (stored : List Event) (fresh : String) (e : Event) (s : MemoryStore) :
    Except StoreError String × MemoryStore :=
  let e := e.identified fresh
  if s.events.contains e.id then (.error (.alreadyExists e.id), s)
  else match s.writeAmong stored e with
    | .error error => (.error error, s)
    | .ok s' => (.ok e.id, s')

/-- Replaces an event, where the stored events are looked through in the given order. -/
def updateAmong (stored : List Event) (e : Event) (s : MemoryStore) :
    Except StoreError Unit × MemoryStore :=
  if !s.events.contains e.id then (.error (.notFound e.id), s)
  else match s.writeAmong stored e with
    | .error error => (.error error, s)
    | .ok s' => (.ok (), s')

/-- Adds an event. -/
def create (fresh : String) (e : Event) (s : MemoryStore) :
    Except StoreError String × MemoryStore :=
  s.createAmong s.values fresh e

/-- Replaces an event. -/
def update (e : Event) (s : MemoryStore) : Except StoreError Unit × MemoryStore :=
  s.updateAmong s.values e

/-- Removes an event. -/
def delete (id : String) (s : MemoryStore) : Except StoreError Unit × MemoryStore :=
  if s.events.contains id then (.ok (), ⟨s.events.erase id⟩) else (.error (.notFound id), s)

/-- Removes the events that ended before `cutoff`. -/
def deleteOlderThan (cutoff : Instant) (s : MemoryStore) :
    Except StoreError Nat × MemoryStore :=
  let s' : MemoryStore := ⟨s.events.filter fun _ e => !e.endedBefore cutoff⟩
  (.ok (s.size - s'.size), s')

/-- The event with the given id. -/
def get (id : String) (s : MemoryStore) : Except StoreError Event :=
  match s.events[id]? with
  | some e => .ok e
  | none => .error (.notFound id)

/-- A store in memory as a store over its state. -/
def store : EventStore (StateM MemoryStore) where
  create fresh e := fun s => create fresh e s
  update e := fun s => update e s
  delete id := fun s => delete id s
  deleteOlderThan cutoff := fun s => deleteOlderThan cutoff s
  get id := fun s => (get id s, s)
  list := fun s => (.ok (s.collect fun _ => true), s)
  listByUser userId := fun s => (.ok (s.collect fun e => e.userId == userId), s)
  listByUserInRange userId first last := fun s =>
    (.ok (s.collect fun e => e.userId == userId && e.intersectsRange first last), s)
  listDueBefore now before := fun s => (.ok (s.collect fun e => e.isDue now before), s)

end MemoryStore

end Reminders
