import Mathlib.Logic.Function.Basic
import Reminders.Proofs.Database.Protocol
import Reminders.Proofs.Database.Table

/-!
# Database — sessions side by side

Any number of clients perform operations of the store on one table, each in a session of its own.  A
statement is first sent and later answered; in between the other sessions go on, so the answers come
in any order.  What the database guarantees is this.

* A statement reads the rows that were committed when it was sent and the changes of its own
  transaction.  One that locks, replaces or removes rows waits for their locks first; of the rows
  that it had seen it then takes some that are still there, as they are now.  One that inserts a
  row waits for the lock of its id and fails if there is such a row by then.
* A key of `lockUser`, which is a function of the user, and the rows that a transaction has locked
  or written are held until the transaction ends, each by one session at most.
* The changes of a transaction take effect together when it is committed.  A transaction that fails
  or is abandoned leaves nothing.

Any statement may fail at any moment, the reply to a statement that took effect may be lost, and a
client may leave at any moment.
-/

namespace Reminders.Database

/-! ### Transactions -/

/-- What a query finds: `seen` are the rows that it reads, `present` those that are there when it is
answered. -/
def Query.Finds (q : Query) (seen present found : Table) : Prop :=
  match q with
  | .insertEvent => found = present
  | .lockEvent | .updateEvent | .deleteEvent | .deleteEndedBefore =>
    found.Sublist present ∧ ∀ r ∈ found, seen.Has r.id
  | _ => found = seen

/-- Where nothing changes between the two, a query may find all rows. -/
theorem Query.finds_all (q : Query) (t : Table) : q.Finds t t t := by
  have hself : List.Sublist t t ∧ ∀ r ∈ t, t.Has r.id :=
    ⟨List.Sublist.refl t, fun r hr => ⟨r, hr, rfl⟩⟩
  cases q with
  | lockEvent | updateEvent | deleteEvent | deleteEndedBefore => exact hself
  | _ => rfl

/-- The users whose key a query takes. -/
def Query.users (q : Query) (parameters : List Value) : List String :=
  match q, parameters with
  | .lockUser, [.text userId] => [userId]
  | _, _ => []

/-- The ids of the rows that a query locks. -/
def Query.ids (q : Query) (parameters : List Value) (found : Table) : List String :=
  match q, parameters with
  | .lockEvent, [.text id] => (found.filter (·.id == id)).map (·.id)
  | .insertEvent, .text id :: _ => [id]
  | _, _ => (q.outcome parameters found).2.map Change.id

theorem Query.ids_insertEvent {parameters : List Value} {row : EventRow}
    (h : EventRow.ofValues? parameters = some row) (found : Table) :
    Query.insertEvent.ids parameters found = [row.id] := by
  unfold EventRow.ofValues? at h
  split at h
  · cases h
    rfl
  · cases h

/-- What an open transaction has done so far. -/
structure Transaction (κ : Type) where
  changes : List Change
  /-- The keys that it holds. -/
  keys : List κ
  /-- The ids of the rows that it has locked. -/
  ids : List String

/-- How a session stands to transactions. -/
inductive Standing (κ : Type) where
  | outside
  | inside (t : Transaction κ)
  /-- A statement of the transaction failed, and all its work is undone. -/
  | failed

variable {κ : Type}

/-- The transaction after a query. -/
def Transaction.extend (hash : String → κ) (t : Transaction κ) (q : Query) (parameters : List Value)
    (found : Table) : Transaction κ :=
  ⟨t.changes ++ (q.outcome parameters found).2, t.keys ++ (q.users parameters).map hash,
    t.ids ++ q.ids parameters found⟩

namespace Standing

/-- The keys that are held. -/
def keys : Standing κ → List κ
  | .inside t => t.keys
  | _ => []

/-- The ids of the rows that are locked. -/
def ids : Standing κ → List String
  | .inside t => t.ids
  | _ => []

/-- What has been changed and not yet committed. -/
def changes : Standing κ → List Change
  | .inside t => t.changes
  | _ => []

/-- The standing after a statement that failed. -/
def afterFailure : Standing κ → Statement → Standing κ
  | .outside, _ => .outside
  | _, .query .. => .failed
  | _, _ => .outside

end Standing

/-! ### Sessions -/

/-- The session of one client. -/
structure Session (κ : Type) where
  /-- What the client has still to do. -/
  program : Option (Dialogue (Except StoreError StoreAnswer))
  /-- The rows that were committed when the statement under way was sent. -/
  sent : Option Table
  standing : Standing κ

/-- A session in which nothing goes on. -/
def Session.idle : Session κ := ⟨none, none, .outside⟩

/-- The committed rows and the sessions of all clients. -/
structure World (ι κ : Type) where
  table : Table
  sessions : ι → Session κ

variable {ι : Type}

namespace World

/-- The world after a step of one session. -/
def put [DecidableEq ι] (w : World ι κ) (i : ι) (table : Table) (s : Session κ) : World ι κ :=
  ⟨table, Function.update w.sessions i s⟩

theorem put_self [DecidableEq ι] (w : World ι κ) (i : ι) (table : Table) (s : Session κ) :
    (w.put i table s).sessions i = s := by
  simp only [put, Function.update_self]

theorem put_ne [DecidableEq ι] (w : World ι κ) {i j : ι} (h : j ≠ i) (table : Table)
    (s : Session κ) : (w.put i table s).sessions j = w.sessions j := by
  simp only [put, Function.update_of_ne h]

variable (hash : String → κ)

/-- No other session holds the keys and the locks that the query takes. -/
def Grants (w : World ι κ) (i : ι) (q : Query) (parameters : List Value) (found : Table) : Prop :=
  ∀ j, j ≠ i →
    (∀ userId ∈ q.users parameters, hash userId ∉ (w.sessions j).standing.keys) ∧
      ∀ id ∈ q.ids parameters found, id ∉ (w.sessions j).standing.ids

/-- A statement of a session takes effect: from the rows that were committed when it was sent and
the standing of the session to the rows that are committed now, the new standing, and the reply. -/
inductive Executes (w : World ι κ) (i : ι) (seen : Table) :
    Standing κ → Statement → Table → Standing κ → Reply → Prop where
  | begin : Executes w i seen .outside .begin w.table (.inside ⟨[], [], []⟩) .nothing
  | commit (st : Standing κ) :
      Executes w i seen st .commit (w.table.apply st.changes) .outside .nothing
  | rollback (st : Standing κ) : Executes w i seen st .rollback w.table .outside .nothing
  /-- A single query is committed at once. -/
  | single {q : Query} {parameters : List Value} {found : Table}
      (hfound : q.Finds seen w.table found) (hgrant : w.Grants hash i q parameters found)
      (hreply : (q.outcome parameters found).1.Succeeds) :
      Executes w i seen .outside (.query q parameters)
        (w.table.apply (q.outcome parameters found).2) .outside (q.outcome parameters found).1
  | query {t : Transaction κ} {q : Query} {parameters : List Value} {found : Table}
      (hfound : q.Finds (seen.apply t.changes) (w.table.apply t.changes) found)
      (hgrant : w.Grants hash i q parameters found)
      (hreply : (q.outcome parameters found).1.Succeeds) :
      Executes w i seen (.inside t) (.query q parameters) w.table
        (.inside (t.extend hash q parameters found)) (q.outcome parameters found).1

/-- One session takes a step: the committed rows and the session afterwards. -/
inductive Acts (w : World ι κ) (i : ι) : Table → Session κ → Prop where
  /-- The client starts an operation. -/
  | call (op : StoreOperation) (h : w.sessions i = .idle) :
      Acts w i w.table ⟨some (DatabaseStore.store.perform op), none, .outside⟩
  | send {s : Statement} {next : Reply → Dialogue (Except StoreError StoreAnswer)} {st : Standing κ}
      (h : w.sessions i = ⟨some (.ask s next), none, st⟩) :
      Acts w i w.table ⟨some (.ask s next), some w.table, st⟩
  | answer {s : Statement} {next : Reply → Dialogue (Except StoreError StoreAnswer)} {seen : Table}
      {st : Standing κ} {table : Table} {st' : Standing κ} {reply : Reply}
      (h : w.sessions i = ⟨some (.ask s next), some seen, st⟩)
      (hx : w.Executes hash i seen st s table st' reply) :
      Acts w i table ⟨some (next reply), none, st'⟩
  /-- A statement has taken effect and the session is outside a transaction, but the client only
  learns that the connection failed. -/
  | lose {s : Statement} {next : Reply → Dialogue (Except StoreError StoreAnswer)} {seen : Table}
      {st : Standing κ} {table : Table} {reply : Reply} (code : String)
      (h : w.sessions i = ⟨some (.ask s next), some seen, st⟩)
      (hx : w.Executes hash i seen st s table .outside reply) :
      Acts w i table ⟨some (next (.failure code)), none, .outside⟩
  | fail {s : Statement} {next : Reply → Dialogue (Except StoreError StoreAnswer)} {seen : Table}
      {st : Standing κ} (code : String) (h : w.sessions i = ⟨some (.ask s next), some seen, st⟩) :
      Acts w i w.table ⟨some (next (.failure code)), none, st.afterFailure s⟩
  /-- The client leaves, with its operation done or not. -/
  | leave : Acts w i w.table .idle

/-- The worlds that the sessions can reach from an empty table, in any order of their steps. -/
inductive Reachable [DecidableEq ι] : World ι κ → Prop where
  | start : Reachable ⟨[], fun _ => .idle⟩
  | step {w : World ι κ} {i : ι} {table : Table} {s : Session κ} (h : Reachable w)
      (hs : w.Acts hash i table s) : Reachable (w.put i table s)

end World

end Reminders.Database
