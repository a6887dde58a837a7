import Reminders.Api.Message
import Reminders.Text.Digits

/-!
# Api — description of the interface

The service describes its own interface in the format OpenAPI: for each path and method the codes of
its responses, and the names of the values that are exchanged.
-/

namespace Reminders.Description

/-- The title of the service. -/
def title : String := "Calendar API"

/-- The version of the service. -/
def version : String := "0.1.0"

/-- A method of a path, with the codes of its responses. -/
structure Operation where
  /-- The method in lower case. -/
  method : String
  codes : List Nat

/-- The paths, with their operations. -/
def paths : List (String × List Operation) :=
  [("/health", [⟨"get", [200]⟩]),
    ("/v1/events", [⟨"post", [201, 400, 409, 500]⟩, ⟨"get", [200, 400, 500]⟩]),
    ("/v1/events/\x7bevent_id\x7d",
      [⟨"get", [200, 404, 500]⟩, ⟨"put", [200, 400, 404, 409, 500]⟩,
        ⟨"delete", [204, 404, 500]⟩])]

/-- The names of the values that are exchanged. -/
def schemas : List String :=
  ["CreateEventResponse", "ErrorResponse", "EventRequest", "EventResponse", "HealthResponse",
    "ListResponse_EventResponse"]

/-- The written form of an operation. -/
def Operation.encode (o : Operation) : Bytes :=
  Json.writeObject [("responses", Json.writeObject (o.codes.map fun code =>
    (String.ofList (Text.digits code), Json.writeObject [("description", Json.writeText "")])))]

/-- The written description. -/
def encode : Bytes :=
  Json.writeObject [
    ("openapi", Json.writeText "3.1.0"),
    ("info", Json.writeObject
      [("title", Json.writeText title), ("version", Json.writeText version)]),
    ("paths", Json.writeObject (paths.map fun (path, operations) =>
      (path, Json.writeObject (operations.map fun o => (o.method, o.encode))))),
    ("components", Json.writeObject [("schemas", Json.writeObject (schemas.map fun name =>
      (name, Json.writeObject [("type", Json.writeText "object")])))])]

end Reminders.Description
