import Reminders.Config.Environment
import Reminders.Time.Instant
import Reminders.Yaml.Typed

/-!
# Scheduler — configuration
-/

namespace Reminders

/-- The section `scheduler` of the settings.  Both times are in nanoseconds. -/
structure SchedulerConfig where
  /-- The time between two ticks, and how far each tick looks ahead. -/
  interval : Nat := 60 * 1000000000
  /-- Events that ended longer ago are removed. -/
  retention : Nat := 31536000 * 1000000000
deriving DecidableEq

namespace SchedulerConfig

/-- Reads a time in whole seconds. -/
def seconds : Yaml.Typed Nat := fun d n =>
  (Yaml.natural bound64 d n).map (· * 1000000000)

/-- Reads the section. -/
def typed : Yaml.Typed SchedulerConfig :=
  Yaml.sectionOf {} [
    .of "interval_secs" (fun c v => { c with interval := v }) seconds,
    .of "retention_period_secs" (fun c v => { c with retention := v }) seconds]

/-- The section with the changes that the environment asks for. -/
def applyEnv (c : SchedulerConfig) (env : Environment) : Except ConfigError SchedulerConfig := do
  let interval ← env.natural? bound64 "SCHEDULER_INTERVAL_SECS"
  let retention ← env.natural? bound64 "SCHEDULER_RETENTION_SECS"
  return {
    interval := (interval.map (· * 1000000000)).getD c.interval
    retention := (retention.map (· * 1000000000)).getD c.retention }

/-- The rules of the section. -/
def validate (c : SchedulerConfig) : Except ConfigError Unit :=
  if c.interval = 0 then
    .error (.invalid "scheduler.interval_secs must be greater than zero")
  else if (Instant.move? c.retention).isNone then
    .error (.invalid "scheduler.retention_period_secs is out of range")
  else .ok ()

end SchedulerConfig

end Reminders
