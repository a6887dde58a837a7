import Reminders.Database.Statement

/-!
# Database — dialogues

A program that talks to a database is a *dialogue*: it ends with a value, asks the database and goes
on with the reply, or stops with a fault of its own.  What the database does is left open: a
dialogue can be run against any peer, and what it sends is read off its shape.
-/

namespace Reminders.Database

/-- A program that talks to a database. -/
inductive Dialogue (α : Type) : Type where
  | done (value : α)
  | ask (statement : Statement) (next : Reply → Dialogue α)
  /-- The task stops here and returns nothing. -/
  | halt

namespace Dialogue

variable {α β : Type}

/-- Goes on with another dialogue. -/
def bind : Dialogue α → (α → Dialogue β) → Dialogue β
  | .done a, f => f a
  | .ask s next, f => .ask s fun r => bind (next r) f
  | .halt, _ => .halt

instance : Monad Dialogue where
  pure := .done
  bind := bind

/-- Sends a statement and returns the reply. -/
def send (s : Statement) : Dialogue Reply :=
  .ask s .done

/-- Sends a query with its parameters. -/
def query (q : Query) (parameters : List Value) : Dialogue Reply :=
  send (.query q parameters)

/-- Runs a dialogue against a peer with a state; there is no value if it halts. -/
def run {σ : Type} (peer : Statement → StateM σ Reply) : Dialogue α → StateM σ (Option α)
  | .done a => pure (some a)
  | .ask s next => do
    let reply ← peer s
    run peer (next reply)
  | .halt => pure none

/-- Runs a dialogue in another monad that answers statements; a dialogue that halts returns the
given value. -/
def interpret {m : Type → Type} [Monad m] (peer : Statement → m Reply) (halted : m α) :
    Dialogue α → m α
  | .done a => pure a
  | .ask s next => do
    let reply ← peer s
    interpret peer halted (next reply)
  | .halt => halted

/-- Runs some work in a transaction: it is committed if the work succeeds and rolled back if the
work or the commit fails. -/
def transaction {ε : Type} (failed : String → ε) (work : Dialogue (Except ε α)) :
    Dialogue (Except ε α) := do
  match ← send .begin with
  | .failure code => return .error (failed code)
  | _ =>
    match ← work with
    | .error e =>
      let _ ← send .rollback
      return .error e
    | .ok a =>
      match ← send .commit with
      | .failure code =>
        let _ ← send .rollback
        return .error (failed code)
      | _ => return .ok a

end Dialogue

/-! ### Scripted peers -/

/-- A peer that plays given replies in turn and writes down what it hears. -/
structure Script where
  /-- The replies to queries; after the last one statements do nothing. -/
  replies : List Reply
  /-- The statement of a transaction that fails once. -/
  failing : Option Statement
  /-- What was heard, last statement first. -/
  heard : List Statement

namespace Script

/-- Answers a statement. -/
def answer (s : Statement) : StateM Script Reply := fun script =>
  let script := { script with heard := s :: script.heard }
  match s with
  | .query .. =>
    match script.replies with
    | reply :: replies => (reply, { script with replies := replies })
    | [] => (.nothing, script)
  | s =>
    if script.failing = some s then (.failure "08006", { script with failing := none })
    else (.nothing, script)

end Script

/-! ### Without a database -/

/-- The reply to any statement where no database can be reached. -/
def unreachable : Reply := .failure "08003"

/-- Runs a dialogue where no database can be reached; there is no value if it halts. -/
def Dialogue.alone {α : Type} : Dialogue α → Option α
  | .done a => some a
  | .ask _ next => (next unreachable).alone
  | .halt => none

end Reminders.Database
