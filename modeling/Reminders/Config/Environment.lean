import Reminders.Config.Error
import Reminders.Text.Blank
import Reminders.Text.Casing
import Reminders.Text.Digits
import Reminders.Text.Words

/-!
# Config — environment variables

A variable with a blank value counts as unset.  Text is taken as it is; numbers and flags may have
blanks around them.  A `.env` file adds variables that are not set.
-/

namespace Reminders

/-- The variables of a process. -/
structure Environment where
  entries : List (String × String)

namespace Environment

/-- The value of a variable. -/
def get? (env : Environment) (name : String) : Option String :=
  env.entries.lookup name

/-- The value of a variable, unless it is blank. -/
def text? (env : Environment) (name : String) : Option String :=
  (env.get? name).filter fun value => !Text.isBlank value

/-- The value of a variable of a type that `interpret` reads from the trimmed text. -/
def parse? {α : Type} (interpret : String → Option α) (env : Environment) (name : String) :
    Except ConfigError (Option α) :=
  match env.text? name with
  | none => .ok none
  | some value =>
    match interpret (Text.trim value) with
    | some a => .ok (some a)
    | none => .error (.invalidVariable name value)

/-- The value of a variable that holds a natural number below `bound`. -/
def natural? (bound : Nat) (env : Environment) (name : String) :
    Except ConfigError (Option Nat) :=
  env.parse? (Text.natBelow? bound) name

/-- What a word says for a flag. -/
def flagOf? (word : String) : Option Bool :=
  let word := Text.lower word
  if ["true", "1", "yes", "on"].contains word then some true
  else if ["false", "0", "no", "off"].contains word then some false
  else none

/-- The value of a variable that holds a flag. -/
def flag? (env : Environment) (name : String) : Except ConfigError (Option Bool) :=
  env.parse? flagOf? name

/-! ### Variables from a file -/

/-- The variable that a line `NAME=value` sets; an empty line or a comment sets none.  Only plain
lines are read like this.  Left out are quotes around a value and the escapes in them, a leading
`export`, variables that a value refers to, and comments after a value; and a line that is bad for
any reason does not end the reading of the file. -/
def variableOf? (line : String) : Option (String × String) :=
  let line := Text.trim line
  if line.isEmpty || line.toList.head? = some '#' then none
  else match Text.cutAt '=' line.toList with
    | (name, some value) =>
      some (Text.trim (String.ofList name), Text.trim (String.ofList value))
    | (_, none) => none

/-- The environment with the variables of a `.env` file that it lacks. -/
def withFile (env : Environment) (content : String) : Environment :=
  (Text.words '\n' content).foldl (fun env line =>
    match variableOf? line with
    | some (name, value) =>
      if (env.get? name).isSome then env else ⟨env.entries ++ [(name, value)]⟩
    | none => env) env

end Environment

end Reminders
