import Reminders.Config.Backend
import Reminders.Config.Environment
import Reminders.Yaml.Typed

/-!
# Store — configuration
-/

namespace Reminders

/-- The section `storage` of the settings. -/
structure StorageConfig where
  kind : BackendKind := .memory
  /-- Where the database is. -/
  url : Option String := none
  /-- Whether the tables are brought up to date at the start. -/
  migrate : Bool := true
  maxConnections : Nat := 10
deriving DecidableEq

namespace StorageConfig

/-- Reads the section. -/
def typed : Yaml.Typed StorageConfig :=
  Yaml.sectionOf {} [
    .of "kind" (fun c v => { c with kind := v }) (Yaml.word BackendKind.ofName?),
    .of "url" (fun c v => { c with url := v }) (Yaml.orNull Yaml.text),
    .of "migrate" (fun c v => { c with migrate := v }) Yaml.flag,
    .of "max_connections" (fun c v => { c with maxConnections := v })
      (Yaml.natural bound32)]

/-- The section with the changes that the environment asks for. -/
def applyEnv (c : StorageConfig) (env : Environment) : Except ConfigError StorageConfig := do
  let kind ← match env.text? "STORAGE_KIND" with
    | some word => BackendKind.read "storage" word
    | none => pure c.kind
  let url := (env.text? "DATABASE_URL").or c.url
  let migrate ← env.flag? "DATABASE_MIGRATE"
  let maxConnections ← env.natural? bound32 "DATABASE_MAX_CONNECTIONS"
  return ⟨kind, url, migrate.getD c.migrate, maxConnections.getD c.maxConnections⟩

/-- The rules of the section. -/
def validate (c : StorageConfig) : Except ConfigError Unit :=
  if c.kind = .postgres ∧ c.url = none then
    .error (.invalid "storage.url (DATABASE_URL) is required for postgres storage")
  else if c.maxConnections = 0 then
    .error (.invalid "storage.max_connections must be greater than zero")
  else .ok ()

end StorageConfig

end Reminders
