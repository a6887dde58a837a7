import Mathlib.Data.List.Pairwise
import Reminders.Proofs.Database.Protocol
import Reminders.Proofs.Database.Table

/-!
# Database — a sole client

A database with one client, who sends one statement after another and gets each answered by its
meaning on the table of events.  Inside a transaction a query finds and changes rows that are not
committed yet; outside, its changes are committed at once.

* `answer_query`, `answer_query_inside`: what a query does that succeeds.
* `run_transaction_ok`, `run_transaction_error`: a transaction commits what its work has left if the
  work succeeds, and nothing otherwise.
-/

namespace Reminders.Database

/-- What a sole client has under way. -/
inductive Work where
  | nothing
  /-- A transaction that has left these rows. -/
  | begun (rows : Table)
  /-- A transaction of which a statement failed. -/
  | failed
deriving DecidableEq

/-- A database with a sole client. -/
structure Sole where
  /-- The committed rows. -/
  table : Table
  work : Work
deriving DecidableEq

/-- The code of a statement in a transaction that has failed. -/
def transactionAborted : String := "25P02"

namespace Sole

/-- The database between two operations of its client. -/
def resting (t : Table) : Sole := ⟨t, .nothing⟩

/-- The database in a transaction that has left these rows. -/
def inside (t rows : Table) : Sole := ⟨t, .begun rows⟩

/-- Answers a statement by its meaning. -/
def answer (s : Statement) : StateM Sole Reply := fun x =>
  match s, x.work with
  | .begin, _ => (.nothing, inside x.table x.table)
  | .commit, .begun rows => (.nothing, resting rows)
  | .commit, _ | .rollback, _ => (.nothing, resting x.table)
  | .query q parameters, .nothing =>
    ((q.outcome parameters x.table).1, resting (x.table.apply (q.outcome parameters x.table).2))
  | .query q parameters, .begun rows =>
    match q.outcome parameters rows with
    | (.failure code, _) => (.failure code, ⟨x.table, .failed⟩)
    | (reply, changes) => (reply, inside x.table (rows.apply changes))
  | .query .., .failed => (.failure transactionAborted, x)

variable {α β ε : Type} {t rows : Table}

theorem answer_query {q : Query} {parameters : List Value} {reply : Reply} {changes : List Change}
    (h : q.outcome parameters t = (reply, changes)) :
    answer (.query q parameters) (resting t) = (reply, resting (t.apply changes)) := by
  show ((q.outcome parameters t).1, resting (t.apply (q.outcome parameters t).2)) = _
  rw [h]

theorem answer_query_inside {q : Query} {parameters : List Value} {reply : Reply}
    {changes : List Change} (h : q.outcome parameters rows = (reply, changes))
    (hreply : reply.Succeeds) :
    answer (.query q parameters) (inside t rows) = (reply, inside t (rows.apply changes)) := by
  simp only [answer, inside, h]
  cases reply with
  | failure code => exact absurd rfl (hreply code)
  | rows _ | affected _ => rfl

theorem run_transaction (failed : String → ε) (work : Dialogue (Except ε α)) (t : Table) :
    (Dialogue.transaction failed work).run answer (resting t) =
      (work >>= Dialogue.conclude failed).run answer (inside t t) := by
  rw [Dialogue.transaction_eq]
  rfl

/-- A transaction is committed if its work succeeds. -/
theorem run_transaction_ok (failed : String → ε) {work : Dialogue (Except ε α)} {a : α}
    (h : work.run answer (inside t t) = (some (.ok a), inside t rows)) :
    (Dialogue.transaction failed work).run answer (resting t) = (some (.ok a), resting rows) :=
  Dialogue.run_transaction_ok failed rfl (Reply.succeeds_affected 0) h rfl
    (Reply.succeeds_affected 0)

/-- A transaction leaves nothing if its work fails. -/
theorem run_transaction_error (failed : String → ε) {work : Dialogue (Except ε α)} {e : ε}
    (h : work.run answer (inside t t) = (some (.error e), inside t rows)) :
    (Dialogue.transaction failed work).run answer (resting t) = (some (.error e), resting t) := by
  rw [run_transaction, Dialogue.run_bind_of_some h]
  rfl

end Sole

/-! ### Removing rows -/

namespace Table

theorem apply_removals_eq (t gone : Table) :
    t.apply gone.removals = t.filter fun r => ¬ gone.Has r.id := by
  induction gone generalizing t with
  | nil => exact (List.filter_eq_self.mpr fun r _ => by simp [Has]).symm
  | cons g gone ih =>
      have hcons : t.apply (removals (g :: gone)) =
          (t.change (.remove g.id)).apply (removals gone) :=
        rfl
      rw [hcons, ih, change, List.filter_filter]
      refine List.filter_congr fun r _ => ?_
      have hhas : Has (g :: gone) r.id ↔ r.id = g.id ∨ Has gone r.id := by
        simp [Has, eq_comm]
      simp only [hhas, not_or, Bool.decide_and, Bool.and_comm, ne_eq]

/-- No two rows of the table have the same id. -/
def IsKeyed (t : Table) : Prop :=
  t.Pairwise fun a b => a.id ≠ b.id

theorem IsKeyed.eq_of_id_eq {t : Table} (ht : t.IsKeyed) {a b : EventRow} (ha : a ∈ t) (hb : b ∈ t)
    (h : a.id = b.id) : a = b := by
  have hsymm : Std.Symm fun a b : EventRow => a.id ≠ b.id := ⟨fun _ _ h => h.symm⟩
  by_contra hne
  exact ht.forall ha hb hne h

/-- Removing the rows of some property leaves the others. -/
theorem IsKeyed.apply_removals {t : Table} (ht : t.IsKeyed) (p : EventRow → Bool) :
    t.apply (removals (t.filter p)) = t.filter fun r => !p r := by
  rw [apply_removals_eq]
  refine List.filter_congr fun r hr => ?_
  have hhas : Has (t.filter p) r.id ↔ p r = true := by
    constructor
    · rintro ⟨g, hg, hid⟩
      obtain ⟨hg, hp⟩ := List.mem_filter.mp hg
      exact ht.eq_of_id_eq hg hr hid ▸ hp
    · exact fun hp => ⟨r, List.mem_filter.mpr ⟨hr, hp⟩, rfl⟩
  simp [hhas]

end Table

end Reminders.Database
