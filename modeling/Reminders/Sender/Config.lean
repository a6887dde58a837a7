import Reminders.Config.Environment
import Reminders.Yaml.Typed

/-!
# Sender — configuration
-/

namespace Reminders

/-- The section `sender` of the settings. -/
structure SenderConfig where
  /-- The queue that holds the notifications. -/
  queue : String := "notifications"
  /-- The exchange that gets the delivery statuses. -/
  statusExchange : String := "notification_status"
deriving DecidableEq

namespace SenderConfig

/-- Reads the section. -/
def typed : Yaml.Typed SenderConfig :=
  Yaml.sectionOf {} [
    .of "queue" (fun c v => { c with queue := v }) Yaml.text,
    .of "status_exchange" (fun c v => { c with statusExchange := v }) Yaml.text]

/-- The section with the changes that the environment asks for. -/
def applyEnv (c : SenderConfig) (env : Environment) : SenderConfig where
  queue := (env.text? "SENDER_QUEUE").getD c.queue
  statusExchange := (env.text? "SENDER_STATUS_EXCHANGE").getD c.statusExchange

/-- The rules of the section. -/
def validate (c : SenderConfig) : Except ConfigError Unit :=
  if Text.isBlank c.queue then .error (.invalid "sender.queue must not be empty")
  else if Text.isBlank c.statusExchange then
    .error (.invalid "sender.status_exchange must not be empty")
  else .ok ()

end SenderConfig

end Reminders
