import Reminders.Database.Migration

/-!
# Database — connections

A program finds its database by an address.  Connecting fails if the address cannot be understood
or if nobody answers there; both come from outside.  What a program changes by connecting is which
migrations it applies, so these are written down.
-/

namespace Reminders.Database

/-- The text begins with a scheme: a letter, then letters, digits and `+`, `-`, `.`, then a
colon. -/
def hasScheme (address : String) : Bool :=
  match address.toList with
  | [] => false
  | c :: cs =>
    c.isAlpha &&
      (cs.dropWhile fun c => c.isAlphanum || c == '+' || c == '-' || c == '.').head? == some ':'

/-- What a program can connect to. -/
structure Network where
  /-- The history of the database at an address, or the reason why it cannot be reached. -/
  reach : String → Except String History

namespace Network

/-- The history of the database at an address; an address without a scheme is refused. -/
def connect (network : Network) (address : String) : Except String History :=
  if hasScheme address then network.reach address
  else .error "error with configuration: relative URL without a base"

end Network

/-- Work that may apply migrations before it fails or succeeds. -/
abbrev Setup (ε : Type) := ExceptT ε (StateM (List Migration))

/-- Connects to the database at an address and, if asked for, brings the tables of a component up
to date; a failure is reported by its text. -/
def prepare {ε : Type} (network : Network) (failed : String → ε) (address : String)
    (wanted : Bool) (migration : Migration) : Setup ε Unit :=
  match network.connect address with
  | .error reason => throw (failed reason)
  | .ok history =>
    if wanted then
      match history.migrate migration with
      | .error error => throw (failed error.message)
      | .ok applied => modify (· ++ applied)
    else return ()

end Reminders.Database
