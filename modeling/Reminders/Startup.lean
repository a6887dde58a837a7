import Reminders.Api.Settings
import Reminders.Deployment
import Reminders.Scheduler.Settings
import Reminders.Sender.Settings

/-!
# Startup — from settings to running programs

There are three programs.  Each loads its settings and opens what they describe, in a fixed order;
the first failure ends it with a report and the exit code 1.
-/

namespace Reminders

open Database

/-! ### Failures -/

/-- Why a program ends early: what it was about to do, and the chain of causes, outermost first. -/
structure Failure where
  context : String
  causes : List String
deriving DecidableEq

namespace Failure

/-- A text whose lines after the first are indented. -/
def hang (indent : Nat) (s : String) : String :=
  String.intercalate ("\n" ++ String.ofList (List.replicate indent ' ')) (Text.words '\n' s)

/-- The lines of the causes; they are numbered if there is more than one. -/
def causeLines (causes : List String) : List String :=
  match causes with
  | [cause] => ["    " ++ hang 4 cause]
  | causes => causes.zipIdx.map fun (cause, i) =>
    let number := toString i
    String.ofList (List.replicate (5 - number.length) ' ') ++ number ++ ": " ++ hang 7 cause

/-- The report of a failure. -/
def report (f : Failure) : String :=
  "Error: " ++ f.context ++
    (if f.causes.isEmpty then "" else
      "\n\nCaused by:\n" ++ String.intercalate "\n" (causeLines f.causes)) ++ "\n"

end Failure

/-- The chain of causes of an error in the settings; a file that cannot be read brings the reason
as a cause of its own. -/
def ConfigError.causes (e : ConfigError) : List String :=
  match e with
  | .unreadable _ reason => [e.message, reason]
  | e => [e.message]

/-! ### Programs -/

/-- The programs. -/
inductive Program where
  | api
  | scheduler
  | sender
deriving DecidableEq

namespace Program

def name : Program → String
  | .api => "calendar-api"
  | .scheduler => "calendar-scheduler"
  | .sender => "calendar-sender"

def all : List Program := [.api, .scheduler, .sender]

/-- The program of a name. -/
def ofName? (name : String) : Option Program :=
  all.find? fun p => p.name = name

end Program

/-- What a program finds around it. -/
structure Surroundings where
  source : ConfigSource
  network : Network
  /-- Listens at a host and a port, or says why it cannot. -/
  bind : String → Nat → Except String Unit

/-- A program that has started. -/
inductive Service where
  | api (storage : Storage) (http : HttpConfig)
  | scheduler (storage : Storage) (bus : Bus) (config : SchedulerConfig)
  /-- The sender is attached to its queue. -/
  | sender (bus statuses : Bus) (queue : String)

namespace Service

/-- Work of a start whose errors are reported with what was about to be done. -/
def attempt {ε α : Type} (context : String) (causes : ε → List String) (work : Setup ε α) :
    Setup Failure α :=
  work.adapt fun e => ⟨context, causes e⟩

/-- The settings that a load returned. -/
def loaded {σ : Type} (settings : Except ConfigError σ) : Setup Failure σ :=
  attempt "Failed to load configuration" ConfigError.causes (ExceptT.mk (pure settings))

/-- The store that the settings describe. -/
def openStorage (around : Surroundings) (c : StorageConfig) : Setup Failure Storage :=
  attempt "Failed to initialize event storage" (fun e => [e.message])
    (Storage.connect around.network c)

/-- The bus that the settings describe. -/
def openBus (around : Surroundings) (label : String) (c : BusConfig) : Setup Failure Bus :=
  attempt ("Failed to initialize " ++ label) (fun e => [e.message])
    (Bus.connect around.network c)

/-- Starts the API: opens the store and listens. -/
def startApi (around : Surroundings) : Setup Failure Service := do
  let settings ← loaded (ApiSettings.load around.source)
  let storage ← openStorage around settings.storage
  attempt "Failed to bind to address" (fun reason => [reason])
    (ExceptT.mk (pure (around.bind settings.http.host settings.http.port)))
  return .api storage settings.http

/-- Starts the scheduler: opens the store and the bus. -/
def startScheduler (around : Surroundings) : Setup Failure Service := do
  let settings ← loaded (SchedulerSettings.load around.source)
  let storage ← openStorage around settings.storage
  let bus ← openBus around "notification bus" settings.bus
  return .scheduler storage bus settings.scheduler

/-- Attaches the sender to its queue; nothing is sent to the database for this. -/
def attach (bus : Bus) (queue : String) : Setup Failure Bus :=
  match (Bus.channel.consume queue bus).alone with
  | some (.ok (), bus) => return bus
  | some (.error e, _) => throw ⟨"Failed to consume notifications", [e.message]⟩
  | none => throw ⟨"Sender task failed", ["the task halted"]⟩

/-- Starts the sender: opens both buses and attaches to the queue. -/
def startSender (around : Surroundings) : Setup Failure Service := do
  let settings ← loaded (SenderSettings.load around.source)
  let bus ← openBus around "notification bus" settings.bus
  let statuses ← openBus around "status bus" settings.statusBus
  let bus ← attach bus settings.sender.queue
  return .sender bus statuses settings.sender.queue

/-- Starts a program; also returns the migrations that it applied. -/
def start (p : Program) (around : Surroundings) : Except Failure Service × List Migration :=
  let work := match p with
    | .api => startApi around
    | .scheduler => startScheduler around
    | .sender => startSender around
  work.run.run []

/-- The sender in operation, as a deployment without events of its own; other programs send
nothing. -/
def deployment? : Service → Option (Deployment × String)
  | .sender bus statuses queue => some (⟨.memory .empty, bus, statuses⟩, queue)
  | _ => none

end Service

end Reminders
