import Reminders.Api.Message
import Reminders.Api.Query
import Reminders.Store.Basic

/-!
# Api — handling of requests for events

Each handler checks its input, calls the store at most once, and turns the result into a response.
What a store says about its own faults never reaches a client.
-/

namespace Reminders

/-- The response to a store that does not do what it is asked for. -/
def StoreError.response (e : StoreError) : Response :=
  match e with
  | .notFound _ => .error 404 e.message
  | .alreadyExists _ | .conflictOverlap .. => .error 409 e.message
  | .database _ | .serialization _ => .error 500 "Internal server error"

/-- What the creator of an event gets back. -/
structure CreatedEvent where
  /-- The id that the store assigned. -/
  id : String
  event : EventResponse
deriving DecidableEq

/-- The written form of a created event. -/
def CreatedEvent.encode (c : CreatedEvent) : Bytes :=
  Json.writeObject [("id", Json.writeText c.id), ("event", c.event.encode)]

/-- The written form of a listing. -/
def encodeListing (es : List Event) : Bytes :=
  Json.writeObject
    [("data", Json.writeArray (es.map fun e => (EventResponse.ofEvent e).encode))]

namespace EventStore

variable {m : Type → Type} [Monad m]

/-- Creates the event of a request. -/
def handleCreate (store : EventStore m) (fresh : String) (r : EventRequest) : m Response :=
  match r.toEvent "" with
  | .error e => pure (.error 400 e.message)
  | .ok e => do
    match ← store.create fresh e with
    | .error error => return error.response
    | .ok id => return .json 201 (CreatedEvent.encode ⟨id, .ofEvent { e with id := id }⟩)

/-- The events of a selection. -/
def select (store : EventStore m) : Selection → m (Except StoreError (List Event))
  | .all => store.list
  | .ofUser userId => store.listByUser userId
  | .ofUserInRange userId first last => store.listByUserInRange userId first last

/-- Lists events. -/
def handleList (store : EventStore m) (filter : ListFilter) : m Response :=
  match filter.selection with
  | .error e => pure (.error 400 e.message)
  | .ok selection => do
    match ← store.select selection with
    | .error error => return error.response
    | .ok es => return .json 200 (encodeListing es)

/-- Returns the event with an id. -/
def handleGet (store : EventStore m) (id : String) : m Response := do
  match ← store.get id with
  | .error error => return error.response
  | .ok e => return .json 200 (EventResponse.ofEvent e).encode

/-- Replaces the event with an id by the event of a request. -/
def handleUpdate (store : EventStore m) (id : String) (r : EventRequest) : m Response :=
  match r.toEvent id with
  | .error e => pure (.error 400 e.message)
  | .ok e => do
    match ← store.update e with
    | .error error => return error.response
    | .ok () => return .json 200 (EventResponse.ofEvent e).encode

/-- Removes the event with an id. -/
def handleDelete (store : EventStore m) (id : String) : m Response := do
  match ← store.delete id with
  | .error error => return error.response
  | .ok () => return { status := 204 }

end EventStore

end Reminders
