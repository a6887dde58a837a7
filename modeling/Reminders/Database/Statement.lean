import Reminders.Json.Reader
import Reminders.Time.Instant

/-!
# Database — statements and replies

A program talks to a database in statements: a query from a fixed set with its parameters in order,
or one of the three statements that control a transaction.  The database replies with rows, with
the number of rows affected, or with the code of an error.

Times in the database are whole microseconds, counted from the year 2000 and truncated toward it.
-/

namespace Reminders.Database

/-- A value of a column or a parameter. -/
inductive Value where
  | null
  | text (s : String)
  | integer (n : Int)
  /-- Microseconds since 2000-01-01T00:00:00Z. -/
  | time (micros : Int)
  | bytes (b : Bytes)
deriving DecidableEq

/-- The second from which times are counted. -/
def epoch : Int := 946684800

/-- The microseconds of an instant. -/
def microsOf (t : Instant) : Int :=
  ((t.unixSecond - epoch) * 1000000000 + t.nanosecond).tdiv 1000

/-- The instant of some microseconds, if it lies in the span of instants. -/
def instantOf? (micros : Int) : Option Instant :=
  Instant.ofUnix? (micros / 1000000 + epoch) (micros % 1000000 * 1000)

/-- An instant as a value. -/
def Value.ofInstant (t : Instant) : Value :=
  .time (microsOf t)

/-- The queries that the programs use. -/
inductive Query where
  | lockUser
  | eventExists
  | lockEvent
  | overlappingEvent
  | insertEvent
  | updateEvent
  | deleteEvent
  | deleteEndedBefore
  | selectEvent
  | selectEvents
  | selectEventsOfUser
  | selectEventsOfUserInRange
  | selectDueEvents
  | insertMessage
  | claimMessages
deriving DecidableEq

/-- The columns of an event, in the order in which rows are read. -/
def eventColumns : String :=
  "id, user_id, title, description, start_time, end_time, notify_before"

/-- The text of a query; `$n` stands for its `n`-th parameter. -/
def Query.text : Query → String
  | .lockUser => "SELECT pg_advisory_xact_lock(hashtext($1))"
  | .eventExists => "SELECT 1 FROM events WHERE id = $1"
  | .lockEvent => "SELECT 1 FROM events WHERE id = $1 FOR UPDATE"
  | .overlappingEvent =>
    "SELECT id FROM events WHERE user_id = $1 AND id <> $2 AND start_time < $4 AND $3 < end_time " ++
      "ORDER BY start_time, id LIMIT 1"
  | .insertEvent =>
    "INSERT INTO events (" ++ eventColumns ++ ") VALUES ($1, $2, $3, $4, $5, $6, $7)"
  | .updateEvent =>
    "UPDATE events SET user_id = $2, title = $3, description = $4, start_time = $5, " ++
      "end_time = $6, notify_before = $7, updated_at = NOW() WHERE id = $1"
  | .deleteEvent => "DELETE FROM events WHERE id = $1"
  | .deleteEndedBefore => "DELETE FROM events WHERE end_time < $1"
  | .selectEvent => "SELECT " ++ eventColumns ++ " FROM events WHERE id = $1"
  | .selectEvents => "SELECT " ++ eventColumns ++ " FROM events ORDER BY start_time, id"
  | .selectEventsOfUser =>
    "SELECT " ++ eventColumns ++ " FROM events WHERE user_id = $1 ORDER BY start_time, id"
  | .selectEventsOfUserInRange =>
    "SELECT " ++ eventColumns ++ " FROM events WHERE user_id = $1 AND " ++
      "NOT (end_time <= $2 OR start_time >= $3) ORDER BY start_time, id"
  | .selectDueEvents =>
    "SELECT " ++ eventColumns ++ " FROM events WHERE start_time > $1 AND " ++
      "start_time - make_interval(secs => notify_before) > $1 AND " ++
      "start_time - make_interval(secs => notify_before) <= $2 ORDER BY start_time, id"
  | .insertMessage =>
    "INSERT INTO bus_messages (exchange, queue, routing_key, body) VALUES ($1, $2, $3, $4)"
  | .claimMessages =>
    "DELETE FROM bus_messages WHERE id IN ( SELECT id FROM bus_messages WHERE queue = $1 " ++
      "ORDER BY id LIMIT $2 FOR UPDATE SKIP LOCKED ) RETURNING id, body"

/-- A statement. -/
inductive Statement where
  | begin
  | commit
  | rollback
  | query (q : Query) (parameters : List Value)
deriving DecidableEq

/-- The text of a statement. -/
def Statement.text : Statement → String
  | .begin => "BEGIN"
  | .commit => "COMMIT"
  | .rollback => "ROLLBACK"
  | .query q _ => q.text

/-- A row of a reply. -/
abbrev Row := List Value

/-- What the database answers to a statement. -/
inductive Reply where
  | rows (rows : List Row)
  | affected (count : Nat)
  /-- The statement failed with the given code. -/
  | failure (code : String)
deriving DecidableEq

namespace Reply

/-- The rows of a reply; a statement that only affects rows returns none. -/
def found : Reply → List Row
  | .rows rs => rs
  | _ => []

/-- The number of rows that a statement returned or affected. -/
def count : Reply → Nat
  | .rows rs => rs.length
  | .affected n => n
  | .failure _ => 0

/-- The number of rows that some statements returned or affected. -/
def total : List Reply → Nat
  | [] => 0
  | r :: rs => r.count + total rs

/-- The reply of a statement that did nothing. -/
def nothing : Reply := .affected 0

end Reply

/-- The code of a row that would repeat a unique key. -/
def uniqueViolation : String := "23505"

/-- What is said about a statement that failed. -/
def failureText (code : String) : String :=
  "the statement failed with code " ++ code

/-- What is said about a column that does not hold a value of its type. -/
def columnText (column : String) : String :=
  "column " ++ column ++ " cannot be read"

end Reminders.Database
