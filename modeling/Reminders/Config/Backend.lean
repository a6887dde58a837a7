import Reminders.Config.Error
import Reminders.Text.Blank
import Reminders.Text.Casing

/-!
# Config — backends

Events and messages are kept either in the memory of the process or in a database.  A file names
the backend by one exact word; an environment variable may use other spellings.
-/

namespace Reminders

/-- Where a component keeps its data. -/
inductive BackendKind where
  | memory
  | postgres
deriving DecidableEq, Repr

namespace BackendKind

/-- The word used in files. -/
def name : BackendKind → String
  | .memory => "memory"
  | .postgres => "postgres"

/-- The kind of a word in a file. -/
def ofName? (word : String) : Option BackendKind :=
  if word = "memory" then some .memory
  else if word = "postgres" then some .postgres
  else none

/-- The kind that a text names, in any case and with blanks around it. -/
def read (component text : String) : Except ConfigError BackendKind :=
  let word := Text.lower (Text.trim text)
  if ["memory", "in-memory", "inmemory"].contains word then .ok .memory
  else if ["postgres", "postgresql"].contains word then .ok .postgres
  else .error (.invalid ("unknown " ++ component ++ " kind: " ++ word))

end BackendKind

end Reminders
