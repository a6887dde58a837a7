import Reminders.Json.Record

/-!
# Api — requests and responses
-/

namespace Reminders

/-- The method of a request. -/
inductive Method where
  | get
  | head
  | post
  | put
  | delete
  | other (name : String)
deriving DecidableEq

namespace Method

def name : Method → String
  | .get => "GET"
  | .head => "HEAD"
  | .post => "POST"
  | .put => "PUT"
  | .delete => "DELETE"
  | .other name => name

/-- The method of a name; case matters. -/
def ofName (name : String) : Method :=
  match name with
  | "GET" => .get
  | "HEAD" => .head
  | "POST" => .post
  | "PUT" => .put
  | "DELETE" => .delete
  | name => .other name

end Method

/-- What a client sends. -/
structure Request where
  method : Method
  path : String
  query : String
  contentType : Option String
  body : Bytes

/-- The path and the query of an address; what follows a `#` does not count. -/
def Request.targetOf (address : String) : String × String :=
  let cs := address.toList.takeWhile (· != '#')
  let path := cs.takeWhile (· != '?')
  (String.ofList path, String.ofList ((cs.drop path.length).drop 1))

/-- The content of a response. -/
inductive Content where
  | empty
  /-- A value in the format Json. -/
  | json (value : Bytes)
  | plain (text : String)
deriving DecidableEq

/-- What a client gets back. -/
structure Response where
  status : Nat
  /-- The methods that are possible, if the one asked for is not. -/
  allow : List Method := []
  content : Content := .empty
deriving DecidableEq

namespace Response

/-- A response that carries a value. -/
def json (status : Nat) (value : Bytes) : Response :=
  { status := status, content := .json value }

/-- A response that carries a message for people. -/
def plain (status : Nat) (text : String) : Response :=
  { status := status, content := .plain text }

/-- A response that reports an error of the service. -/
def error (status : Nat) (message : String) : Response :=
  .json status (Json.writeObject [("error", Json.writeText message)])

end Response

end Reminders
