import Reminders.Database.Dialogue
import Reminders.Store.Basic

/-!
# Store — in a database

Events are rows of a table.  Creating and replacing an event is a transaction that first takes a
lock on the owner, so that the writers of one user wait for each other, then looks for the id, then
for an overlap, and then writes.  All other operations are single statements.
-/

namespace Reminders.DatabaseStore

open Database

/-- A statement failed. -/
def failed (code : String) : StoreError :=
  .database (failureText code)

/-- A column does not hold a value of its type. -/
def badColumn (column : String) : StoreError :=
  .database (columnText column)

/-- Part of an operation, which may fail. -/
abbrev Step := ExceptT StoreError Dialogue

/-- Sends a query; a failed statement is an error. -/
def query (q : Query) (parameters : List Value) : Step Reply := do
  match ← ExceptT.lift (Dialogue.query q parameters) with
  | .failure code => throw (failed code)
  | reply => return reply

/-- A value that was read, or the fault of reading it. -/
def lift {α : Type} (r : Except StoreError α) : Step α :=
  ExceptT.mk (pure r)

/-! ### Rows -/

/-- The text in a column of a row. -/
def textAt (row : Row) (i : Nat) (column : String) : Except StoreError String :=
  match row[i]? with
  | some (.text s) => .ok s
  | _ => .error (badColumn column)

/-- The time in a column of a row. -/
def timeAt (row : Row) (i : Nat) (column : String) : Except StoreError Instant :=
  match row[i]? with
  | some (.time micros) =>
    match instantOf? micros with
    | some t => .ok t
    | none => .error (badColumn column)
  | _ => .error (badColumn column)

/-- The integer in a column of a row. -/
def integerAt (row : Row) (i : Nat) (column : String) : Except StoreError Int :=
  match row[i]? with
  | some (.integer n) => .ok n
  | _ => .error (badColumn column)

/-- The event in a row. -/
def eventOfRow (row : Row) : Except StoreError Event := do
  let notice ← integerAt row 6 "notify_before"
  let id ← textAt row 0 "id"
  let userId ← textAt row 1 "user_id"
  let title ← textAt row 2 "title"
  let description ← textAt row 3 "description"
  let startTime ← timeAt row 4 "start_time"
  let endTime ← timeAt row 5 "end_time"
  if 0 ≤ notice ∧ notice < 4294967296 then
    return ⟨id, userId, title, description, startTime, endTime, UInt32.ofNat notice.toNat⟩
  else throw (.serialization ("notify_before out of range: " ++ toString notice))

/-- The values of an event in the order of its columns. -/
def valuesOf (e : Event) : List Value :=
  [.text e.id, .text e.userId, .text e.title, .text e.description, .ofInstant e.startTime,
    .ofInstant e.endTime, .integer e.notifyBefore.toNat]

/-! ### Operations -/

/-- Makes the writers of one user wait for each other until the transaction ends. -/
def lockUser (userId : String) : Step Unit := do
  let _ ← query .lockUser [.text userId]

/-- Fails if another event of the owner overlaps this one. -/
def checkOverlap (e : Event) : Step Unit := do
  let reply ← query .overlappingEvent
    [.text e.userId, .text e.id, .ofInstant e.startTime, .ofInstant e.endTime]
  match reply.found.head? with
  | none => return ()
  | some row => throw (.conflictOverlap e.id (← lift (textAt row 0 "id")))

/-- The work of adding an event. -/
def createWork (e : Event) : Step String := do
  lockUser e.userId
  if !(← query .eventExists [.text e.id]).found.isEmpty then throw (.alreadyExists e.id)
  checkOverlap e
  match ← ExceptT.lift (Dialogue.query .insertEvent (valuesOf e)) with
  | .failure code =>
    if code = uniqueViolation then throw (.alreadyExists e.id) else throw (failed code)
  | _ => return e.id

/-- The work of replacing an event. -/
def updateWork (e : Event) : Step Unit := do
  lockUser e.userId
  if (← query .lockEvent [.text e.id]).found.isEmpty then throw (.notFound e.id)
  checkOverlap e
  let _ ← query .updateEvent (valuesOf e)

/-- Adds an event. -/
def create (fresh : String) (e : Event) : Dialogue (Except StoreError String) :=
  Dialogue.transaction failed (createWork (e.identified fresh)).run

/-- Replaces an event. -/
def update (e : Event) : Dialogue (Except StoreError Unit) :=
  Dialogue.transaction failed (updateWork e).run

/-- Removes an event. -/
def delete (id : String) : Dialogue (Except StoreError Unit) := ExceptT.run do
  if (← query .deleteEvent [.text id]).count = 0 then throw (.notFound id)

/-- Removes the events that ended before `cutoff`. -/
def deleteOlderThan (cutoff : Instant) : Dialogue (Except StoreError Nat) := ExceptT.run do
  return (← query .deleteEndedBefore [.ofInstant cutoff]).count

/-- The event with the given id. -/
def get (id : String) : Dialogue (Except StoreError Event) := ExceptT.run do
  match (← query .selectEvent [.text id]).found.head? with
  | some row => lift (eventOfRow row)
  | none => throw (.notFound id)

/-- The events in the rows of a query. -/
def select (q : Query) (parameters : List Value) : Dialogue (Except StoreError (List Event)) :=
  ExceptT.run do
    let rows := (← query q parameters).found
    lift (rows.mapM eventOfRow)

/-- A store in a database as a store over dialogues. -/
def store : EventStore Dialogue where
  create := create
  update := update
  delete := delete
  deleteOlderThan := deleteOlderThan
  get := get
  list := select .selectEvents []
  listByUser userId := select .selectEventsOfUser [.text userId]
  listByUserInRange userId first last :=
    select .selectEventsOfUserInRange [.text userId, .ofInstant first, .ofInstant last]
  listDueBefore now before := select .selectDueEvents [.ofInstant now, .ofInstant before]

end Reminders.DatabaseStore
