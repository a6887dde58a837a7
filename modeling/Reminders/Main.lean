import Reminders.Api.Router
import Reminders.Startup

/-!
# Main — the programs on the command line

The first argument names the program.  Settings come from the environment and from files.  No
database can be reached from here, so the scheduler and the sender end with a report.  The API
answers requests from standard input, one on each line: the method, the address, and the content if
there is any, with a space between them.  It writes the status and the content of each response on
a line.
-/

namespace Reminders

/-- The environment variables that the programs use. -/
def variableNames : List String :=
  ["CALENDAR_CONFIG", "STORAGE_KIND", "DATABASE_URL", "DATABASE_MIGRATE",
    "DATABASE_MAX_CONNECTIONS", "BUS_KIND", "BUS_URL", "BUS_EXCHANGE", "BUS_POLL_INTERVAL_MS",
    "HTTP_HOST", "HTTP_PORT", "HTTP_REQUEST_TIMEOUT_SECS", "API_PREFIX", "CORS_ALLOWED_ORIGINS",
    "SCHEDULER_INTERVAL_SECS", "SCHEDULER_RETENTION_SECS", "SENDER_QUEUE",
    "SENDER_STATUS_EXCHANGE"]

/-- The variables of the process. -/
def readVariables : IO Environment := do
  let values ← variableNames.mapM fun name => do
    return (← IO.getEnv name).map fun value => (name, value)
  return ⟨values.filterMap id⟩

/-- The content of a file, or the reason why it cannot be read. -/
def readContent (path : String) : IO (Except String String) := do
  try
    return .ok (← IO.FS.readFile path)
  catch
    | .noFileOrDirectory .. => return .error "No such file or directory (os error 2)"
    | e => return .error (toString e)

/-- The sources of the settings. -/
def readSource : IO ConfigSource := do
  let process ← readVariables
  let dotenv ← readContent ".env"
  let first : ConfigSource := { process := process, file := fun _ => dotenv }
  let path := (first.environment.text? "CALENDAR_CONFIG").getD ".env"
  let content ← readContent path
  return { process := process, file := fun p => if p = ".env" then dotenv else content }

/-- The request on a line. -/
def Request.ofLine (line : String) : Request :=
  let (method, rest) := Text.cutAt ' ' line.toList
  let (address, content) := Text.cutAt ' ' (rest.getD [])
  let (path, query) := targetOf (String.ofList address)
  { method := .ofName (String.ofList method)
    path := path
    query := query
    contentType := content.map fun _ => "application/json"
    body := bytesOf (String.ofList (content.getD [])) }

/-- The line of a response. -/
def Response.line (r : Response) : String :=
  let content := match r.content with
    | .empty => ""
    | .json value => (textOf? value).getD ""
    | .plain text => text
  Text.trim (toString r.status ++ " " ++ content)

/-- The API as the settings describe it. -/
def Api.ofSettings (storage : Storage) (http : HttpConfig) :
    Api (StateT Storage Database.Dialogue) where
  store := Storage.store
  storage := storage.name
  apiPrefix := http.apiPrefix

/-- Answers the requests on standard input until it ends. -/
partial def serve (http : HttpConfig) (storage : Storage) : IO Unit := do
  let line ← (← IO.getStdin).getLine
  if line.isEmpty then return
  let fresh := String.ofList (Text.padded 20 (← IO.monoNanosNow))
  let work := (Api.ofSettings storage http).respond fresh (.ofLine (Text.trim line))
  match (work storage).alone with
  | some (response, storage) =>
    IO.println response.line
    serve http storage
  | none => return

end Reminders

open Reminders in
/-- Runs the program that the first argument names. -/
def main (args : List String) : IO UInt32 := do
  match args.head?.bind Program.ofName? with
  | none =>
    IO.eprintln ("usage: " ++ String.intercalate " | " (Program.all.map Program.name))
    return 2
  | some program =>
    let around : Surroundings := {
      source := ← readSource
      network := ⟨fun _ => .error "no database can be reached"⟩
      bind := fun _ _ => .ok () }
    match (Service.start program around).1 with
    | .error f =>
      IO.eprint f.report
      return 1
    | .ok (.api storage http) =>
      serve http storage
      return 0
    | .ok _ => return 0
