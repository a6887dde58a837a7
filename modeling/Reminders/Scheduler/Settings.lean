import Reminders.Bus.Config
import Reminders.Config.Source
import Reminders.Scheduler.Config
import Reminders.Store.Config

/-!
# Scheduler — settings

A store or a bus in memory is private to its process.  The scheduler would never see the events of
the API, nor would a sender see its messages, so both must be in a database.
-/

namespace Reminders

/-- The settings of the scheduler. -/
structure SchedulerSettings where
  storage : StorageConfig := {}
  bus : BusConfig := {}
  scheduler : SchedulerConfig := {}
deriving DecidableEq

namespace SchedulerSettings

/-- Reads the settings; sections of other programs are ignored. -/
def typed : Yaml.Typed SchedulerSettings :=
  Yaml.sectionOf {} [
    .of "storage" (fun s v => { s with storage := v }) StorageConfig.typed,
    .of "bus" (fun s v => { s with bus := v }) BusConfig.typed,
    .of "scheduler" (fun s v => { s with scheduler := v }) SchedulerConfig.typed]

/-- The rules of the settings. -/
def validate (s : SchedulerSettings) : Except ConfigError Unit := do
  s.storage.validate
  s.bus.validate
  s.scheduler.validate
  if s.storage.kind = .memory then
    throw (.invalid
      "the scheduler needs shared storage: set storage.kind (STORAGE_KIND) to postgres")
  if s.bus.kind = .memory then
    throw (.invalid "the scheduler needs a shared bus: set bus.kind (BUS_KIND) to postgres")

/-- The settings from their sources, if they obey the rules. -/
def load (source : ConfigSource) : Except ConfigError SchedulerSettings := do
  let s ← source.load typed {}
  let storage ← s.storage.applyEnv source.environment
  let bus ← s.bus.applyEnv source.environment
  let scheduler ← s.scheduler.applyEnv source.environment
  let s : SchedulerSettings := ⟨storage, bus, scheduler⟩
  s.validate
  return s

end SchedulerSettings

end Reminders
