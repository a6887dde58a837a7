import Reminders.Bus.Channel
import Reminders.Bus.Poller
import Reminders.Config.Backend
import Reminders.Config.Environment

/-!
# Bus — configuration
-/

namespace Reminders

/-- The section `bus` of the settings. -/
structure BusConfig where
  kind : BackendKind := .memory
  /-- Where the database is. -/
  url : Option String := none
  exchange : String := "notifications"
  /-- The bindings; if there are none, every message goes to a queue named like the exchange. -/
  bindings : List Binding := []
  /-- Whether the tables are brought up to date at the start. -/
  migrate : Bool := true
  poller : PollerConfig := {}
deriving DecidableEq

/-- A binding while it is read. -/
structure Binding.Draft where
  queue : Option String
  pattern : Option String

/-- Reads a binding; both parts are required. -/
def Binding.typed : Yaml.Typed Binding := fun d n => do
  let draft ← Yaml.sectionOf (⟨none, none⟩ : Binding.Draft) [
    .of "queue" (fun c v => { c with queue := some v }) Yaml.text,
    .of "pattern" (fun c v => { c with pattern := some v }) Yaml.text] d n
  return ⟨← draft.queue, ← draft.pattern⟩

namespace BusConfig

/-- Reads the section. -/
def typed : Yaml.Typed BusConfig :=
  Yaml.sectionOf {} [
    .of "kind" (fun c v => { c with kind := v }) (Yaml.word BackendKind.ofName?),
    .of "url" (fun c v => { c with url := v }) (Yaml.orNull Yaml.text),
    .of "exchange" (fun c v => { c with exchange := v }) Yaml.text,
    .of "bindings" (fun c v => { c with bindings := v }) (Yaml.listOf Binding.typed),
    .of "migrate" (fun c v => { c with migrate := v }) Yaml.flag,
    .of "poller" (fun c v => { c with poller := v }) PollerConfig.typed]

/-- The section with the changes that the environment asks for.  The address of the database is
used for the bus only if the bus has none of its own. -/
def applyEnv (c : BusConfig) (env : Environment) : Except ConfigError BusConfig := do
  let kind ← match env.text? "BUS_KIND" with
    | some word => BackendKind.read "bus" word
    | none => pure c.kind
  let url := ((env.text? "BUS_URL").or c.url).or (env.text? "DATABASE_URL")
  let exchange := (env.text? "BUS_EXCHANGE").getD c.exchange
  let millis ← env.natural? bound64 "BUS_POLL_INTERVAL_MS"
  let minInterval := (millis.map (· * 1000000)).getD c.poller.minInterval
  return { c with
    kind := kind, url := url, exchange := exchange
    poller := { c.poller with minInterval := minInterval } }

/-- The rules of the section. -/
def validate (c : BusConfig) : Except ConfigError Unit := do
  if Text.isBlank c.exchange then throw (.invalid "bus.exchange must not be empty")
  if c.kind = .postgres ∧ c.url = none then
    throw (.invalid "bus.url (BUS_URL or DATABASE_URL) is required for the postgres bus")
  c.poller.validate
  match c.bindings.find? fun b => Text.isBlank b.queue || Text.isBlank b.pattern with
  | some b => throw (.invalid ("bus binding needs a queue and a pattern: " ++ b.display))
  | none => return ()

/-- The bindings in effect. -/
def effectiveBindings (c : BusConfig) : List Binding :=
  if c.bindings.isEmpty then [⟨c.exchange, "#"⟩] else c.bindings

/-- The same bus for another exchange, without bindings of its own. -/
def forExchange (c : BusConfig) (exchange : String) : BusConfig :=
  { c with exchange := exchange, bindings := [] }

end BusConfig

end Reminders
