import Reminders.Api.Config
import Reminders.Config.Source
import Reminders.Store.Config

/-!
# Api — settings
-/

namespace Reminders

/-- The settings of the API server. -/
structure ApiSettings where
  storage : StorageConfig := {}
  http : HttpConfig := {}
deriving DecidableEq

namespace ApiSettings

/-- Reads the settings; sections of other programs are ignored. -/
def typed : Yaml.Typed ApiSettings :=
  Yaml.sectionOf {} [
    .of "storage" (fun s v => { s with storage := v }) StorageConfig.typed,
    .of "http" (fun s v => { s with http := v }) HttpConfig.typed]

/-- The settings from their sources, if they obey the rules. -/
def load (source : ConfigSource) : Except ConfigError ApiSettings := do
  let s ← source.load typed {}
  let storage ← s.storage.applyEnv source.environment
  let http ← s.http.applyEnv source.environment
  storage.validate
  http.validate
  return ⟨storage, http⟩

end ApiSettings

end Reminders
