import Reminders.Text.Quoted

/-!
# Config — errors
-/

namespace Reminders

/-- Why a program cannot be configured. -/
inductive ConfigError where
  /-- The file could not be read, for the reason given. -/
  | unreadable (path reason : String)
  /-- The file does not hold the settings of the program. -/
  | unparsable (path : String)
  /-- An environment variable does not hold a value of its type. -/
  | invalidVariable (name value : String)
  /-- The settings break a rule. -/
  | invalid (reason : String)
deriving DecidableEq

/-- The text that reports an error. -/
def ConfigError.message : ConfigError → String
  | .unreadable path reason => "failed to read config file " ++ path ++ ": " ++ reason
  | .unparsable path => "failed to parse config file " ++ path
  | .invalidVariable name value => "invalid value for " ++ name ++ ": " ++ Text.quoted value
  | .invalid reason => "invalid configuration: " ++ reason

end Reminders
