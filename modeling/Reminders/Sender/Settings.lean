import Reminders.Bus.Config
import Reminders.Config.Source
import Reminders.Sender.Config

/-!
# Sender — settings

A bus in memory is private to its process, so no scheduler could publish to it; it is refused.
-/

namespace Reminders

/-- The settings of the sender. -/
structure SenderSettings where
  bus : BusConfig := {}
  sender : SenderConfig := {}
deriving DecidableEq

namespace SenderSettings

/-- Reads the settings; sections of other programs are ignored. -/
def typed : Yaml.Typed SenderSettings :=
  Yaml.sectionOf {} [
    .of "bus" (fun s v => { s with bus := v }) BusConfig.typed,
    .of "sender" (fun s v => { s with sender := v }) SenderConfig.typed]

/-- The rules of the settings. -/
def validate (s : SenderSettings) : Except ConfigError Unit := do
  s.bus.validate
  s.sender.validate
  if s.bus.kind = .memory then
    throw (.invalid "the sender needs a shared bus: set bus.kind (BUS_KIND) to postgres")

/-- The settings from their sources, if they obey the rules. -/
def load (source : ConfigSource) : Except ConfigError SenderSettings := do
  let s ← source.load typed {}
  let bus ← s.bus.applyEnv source.environment
  let s : SenderSettings := ⟨bus, s.sender.applyEnv source.environment⟩
  s.validate
  return s

/-- The bus that carries the delivery statuses. -/
def statusBus (s : SenderSettings) : BusConfig :=
  s.bus.forExchange s.sender.statusExchange

end SenderSettings

end Reminders
