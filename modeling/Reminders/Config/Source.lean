import Reminders.Config.Environment
import Reminders.Yaml.Typed

/-!
# Config — sources

Settings come from a file that the variable `CALENDAR_CONFIG` names; without it they are the
defaults.  A file `.env` beside the program may add variables.
-/

namespace Reminders

/-- What a program is configured from. -/
structure ConfigSource where
  /-- The variables that the process was started with. -/
  process : Environment
  /-- The content of a file, or the reason why it cannot be read. -/
  file : String → Except String String

namespace ConfigSource

/-- The variables, with those of the file `.env`. -/
def environment (source : ConfigSource) : Environment :=
  match source.file ".env" with
  | .ok content => source.process.withFile content
  | .error _ => source.process

/-- The value that a file holds. -/
def contentOf {α : Type} (source : ConfigSource) (typed : Yaml.Typed α) (path : String) :
    Except ConfigError α :=
  match source.file path with
  | .error reason => .error (.unreadable path reason)
  | .ok content =>
    match Yaml.read? typed content with
    | some value => .ok value
    | none => .error (.unparsable path)

/-- The settings before the environment changes them. -/
def load {α : Type} (source : ConfigSource) (typed : Yaml.Typed α) (defaults : α) :
    Except ConfigError α :=
  match source.environment.text? "CALENDAR_CONFIG" with
  | some path => source.contentOf typed path
  | none => .ok defaults

end ConfigSource

end Reminders
