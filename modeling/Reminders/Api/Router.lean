import Reminders.Api.Description
import Reminders.Api.Handlers
import Reminders.Api.MediaType

/-!
# Api — routing of requests

A request is refused for its path, then for its method, then for its id, its content type, the size
of its content and its content, in this order, before a handler sees it.  A request for the head of
a resource is answered like one for the resource, but without content.
-/

namespace Reminders

/-- What a path stands for. -/
inductive Route where
  | health
  | description
  /-- The events. -/
  | events
  /-- One event; the id is still written as in the address. -/
  | event (segment : String)
deriving DecidableEq

namespace Route

/-- What follows a text at the front of a list of characters. -/
def after? : List Char → List Char → Option (List Char)
  | [], cs => some cs
  | _ :: _, [] => none
  | p :: ps, c :: cs => if p = c then after? ps cs else none

/-- What a path stands for, if anything. -/
def ofPath? (apiPrefix path : String) : Option Route :=
  if path = "/health" then some .health
  else if path = "/api-doc/openapi.json" then some .description
  else match after? (apiPrefix ++ "/v1/events").toList path.toList with
  | some [] => some .events
  | some ('/' :: segment) =>
    if segment.isEmpty || segment.contains '/' then none
    else some (.event (String.ofList segment))
  | _ => none

/-- The methods of a route. -/
def methods : Route → List Method
  | .health | .description => [.get, .head]
  | .events => [.post, .get, .head]
  | .event _ => [.get, .head, .put, .delete]

end Route

/-- The greatest size of the content of a request in bytes. -/
def Request.maxBody : Nat := 2097152

/-- The value that the content of a request begins with; what follows it does not count. -/
def Request.eventRequest (r : Request) : Except Response EventRequest :=
  if !r.contentType.any MediaType.isJson then
    .error (.plain 415 "the content type must be application/json")
  else if maxBody < r.body.length then .error (.plain 413 "the content is too large")
  else match EventRequest.record.read.front r.body with
  | .ok request => .ok request
  | .error .mismatched => .error (.plain 422 "the content is not an event")
  | .error _ => .error (.plain 400 "the content is not well formed")

/-- The service: its store with the name of the backend, and what stands in front of the paths of
events. -/
structure Api (m : Type → Type) where
  store : EventStore m
  storage : String
  apiPrefix : String

namespace Api

variable {m : Type → Type} [Monad m]

/-- The report that the service is up. -/
def health (storage : String) : Bytes :=
  Json.writeObject [("status", Json.writeText "ok"),
    ("version", Json.writeText Description.version), ("storage", Json.writeText storage)]

/-- The response to a request for the events, by a method of theirs. -/
def respondEvents (api : Api m) (fresh : String) (r : Request) : m Response :=
  match r.method with
  | .post =>
    match r.eventRequest with
    | .error response => pure response
    | .ok request => api.store.handleCreate fresh request
  | _ =>
    match ListFilter.ofQuery? r.query with
    | none => pure (.plain 400 "the query is not well formed")
    | some filter => api.store.handleList filter

/-- The response to a request for one event, by a method of its. -/
def respondEvent (api : Api m) (id : String) (r : Request) : m Response :=
  match r.method with
  | .put =>
    match r.eventRequest with
    | .error response => pure response
    | .ok request => api.store.handleUpdate id request
  | .delete => api.store.handleDelete id
  | _ => api.store.handleGet id

/-- The response to a request, with its content. -/
def respondInFull (api : Api m) (fresh : String) (r : Request) : m Response :=
  match Route.ofPath? api.apiPrefix r.path with
  | none => pure { status := 404 }
  | some route =>
    if !route.methods.contains r.method then pure { status := 405, allow := route.methods }
    else match route with
    | .health => pure (.json 200 (health api.storage))
    | .description => pure (.json 200 Description.encode)
    | .events => api.respondEvents fresh r
    | .event segment =>
      match textOf? (Text.percentDecode (bytesOf segment)) with
      | none => pure (.plain 400 "the id is not valid UTF-8")
      | some id => api.respondEvent id r

/-- The response to a request. -/
def respond (api : Api m) (fresh : String) (r : Request) : m Response := do
  let response ← api.respondInFull fresh r
  return if r.method = .head then { response with content := .empty } else response

end Api

end Reminders
