import Reminders.Bus.Database
import Reminders.Proofs.Bus.Routing
import Reminders.Proofs.Database.Protocol

/-!
# Bus — the rows that a channel in a database writes

The table of messages is kept beside a peer that acknowledges every statement: what a transaction
inserts joins the table when it is committed.  Whatever else the peer replies, a channel that is
open writes one row for each queue that a message is routed to, and a closed one writes nothing.

* `run_transaction`: a transaction whose work succeeds commits the rows of its work.
* `run_publish`: the rows of a message.
-/

namespace Reminders

open Database

/-- A message as a row of the table. -/
structure MessageRow where
  exchange : String
  queue : String
  key : String
  body : Bytes
deriving DecidableEq

/-- The row that an insertion with these parameters writes. -/
def MessageRow.ofParameters? : List Value → Option MessageRow
  | [.text exchange, .text queue, .text key, .bytes body] => some ⟨exchange, queue, key, body⟩
  | _ => none

/-- The table of messages. -/
structure Mail where
  /-- The rows that are committed. -/
  stored : List MessageRow
  /-- The rows of the transaction under way. -/
  underway : Option (List MessageRow)
deriving DecidableEq

namespace Mail

/-- A row is written: by the transaction under way, or at once if there is none. -/
def write (row : MessageRow) (mail : Mail) : Mail :=
  match mail.underway with
  | some rows => { mail with underway := some (rows ++ [row]) }
  | none => { mail with stored := mail.stored ++ [row] }

/-- The table after a statement that is acknowledged. -/
def hear (mail : Mail) : Statement → Mail
  | .begin => { mail with underway := some [] }
  | .commit => ⟨mail.stored ++ mail.underway.getD [], none⟩
  | .rollback => { mail with underway := none }
  | .query .insertMessage parameters =>
    match MessageRow.ofParameters? parameters with
    | some row => mail.write row
    | none => mail
  | .query .. => mail

/-- The table between two transactions. -/
def resting (rows : List MessageRow) : Mail := ⟨rows, none⟩

/-- The table in a transaction that has written these rows. -/
def inside (stored rows : List MessageRow) : Mail := ⟨stored, some rows⟩

/-- The bodies that the table holds for a queue, in order. -/
def bodies (rows : List MessageRow) (queue : String) : List Bytes :=
  (rows.filter fun row => row.queue = queue).map MessageRow.body

/-- A peer with the table beside it. -/
def keptBeside {σ : Type} (peer : Statement → StateM σ Reply) :
    Statement → StateM (Mail × σ) Reply :=
  fun s x => ((peer s x.2).1, (x.1.hear s, (peer s x.2).2))

end Mail

/-- A peer acknowledges every statement. -/
def Database.Acknowledges {σ : Type} (peer : Statement → StateM σ Reply) : Prop :=
  ∀ s x, (peer s x).1.Succeeds

/-- The rows of a message, one for each of the queues. -/
def MessageRow.copies (exchange key : String) (body : Bytes) (queues : List String) :
    List MessageRow :=
  queues.map fun queue => ⟨exchange, queue, key, body⟩

namespace DatabaseChannel

open Mail

variable {σ ε α : Type} {peer : Statement → StateM σ Reply} {stored rows : List MessageRow} {x : σ}

/-- The work of a transaction writes these rows. -/
theorem run_insertAll (hpeer : Acknowledges peer) (exchange key : String) (body : Bytes)
    (queues : List String) (rows : List MessageRow) (x : σ) :
    ∃ y, (insertAll exchange key body queues).run (keptBeside peer) (inside stored rows, x) =
      (some (.ok ()), (inside stored (rows ++ MessageRow.copies exchange key body queues), y)) := by
  -- The replies differ from peer to peer, but all that is asked is that none is a failure.
  induction queues generalizing rows x with
  | nil => exact ⟨x, by rw [MessageRow.copies, List.map_nil, List.append_nil]; rfl⟩
  | cons queue queues ih =>
      let insertion : Statement :=
        .query .insertMessage [.text exchange, .text queue, .text key, .bytes body]
      have hsend : (Dialogue.send insertion).run (keptBeside peer) (inside stored rows, x) =
          (some (peer insertion x).1,
            (inside stored (rows ++ [⟨exchange, queue, key, body⟩]), (peer insertion x).2)) :=
        Dialogue.run_send rfl
      obtain ⟨y, hrest⟩ := ih (rows ++ [⟨exchange, queue, key, body⟩]) (peer insertion x).2
      refine ⟨y, ?_⟩
      rw [insertAll, Dialogue.query, Dialogue.run_bind_of_some hsend]
      cases hreply : (peer insertion x).1 with
      | failure code => exact absurd hreply (hpeer insertion x code)
      | rows _ | affected _ =>
          refine hrest.trans ?_
          rw [List.append_assoc]
          rfl

/-- A transaction whose work succeeds commits what the work has written. -/
theorem run_transaction (hpeer : Acknowledges peer) (failed : String → ε)
    {work : Dialogue (Except ε α)} {a : α}
    (hwork : ∀ x, ∃ y, work.run (keptBeside peer) (inside stored [], x) =
      (some (.ok a), (inside stored rows, y))) (x : σ) :
    ∃ y, (Dialogue.transaction failed work).run (keptBeside peer) (resting stored, x) =
      (some (.ok a), (resting (stored ++ rows), y)) := by
  obtain ⟨x₂, hwork⟩ := hwork (peer .begin x).2
  exact ⟨(peer .commit x₂).2, Dialogue.run_transaction_ok failed rfl (hpeer .begin x) hwork rfl
    (hpeer .commit x₂)⟩

/-- A channel that is open writes one row for each queue that the message is routed to. -/
theorem run_publish (hpeer : Acknowledges peer) {c : DatabaseChannel} (hopen : c.isClosed = false)
    (key : String) (body : Bytes) (stored : List MessageRow) (x : σ) :
    ∃ y, (c.publish key body).run (keptBeside peer) (resting stored, x) =
      (some (.ok ()),
        (resting (stored ++ MessageRow.copies c.exchange key body (route c.bindings key)), y)) := by
  rw [publish, if_neg (Bool.eq_false_iff.mp hopen)]
  dsimp only
  split
  · next hnone =>
      rw [List.isEmpty_iff.mp hnone, MessageRow.copies, List.map_nil, List.append_nil]
      exact ⟨x, rfl⟩
  · exact run_transaction hpeer failed
      (fun x => run_insertAll hpeer c.exchange key body (route c.bindings key) [] x) x

end DatabaseChannel

end Reminders
