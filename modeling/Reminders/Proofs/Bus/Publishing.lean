import Reminders.Bus.Database
import Reminders.Proofs.Bus.Routing
import Reminders.Proofs.Database.Transaction
import Reminders.Proofs.Text.Bytes

/-!
# Bus — the transaction that publishes a message

Publishing a message in the database writes a row for each queue that the message is routed to, all
of them in one transaction.  So either every queue gets the message or none does.

* `insertAll_eq`: the work of the transaction is a row of gates, one for each queue.
* `publishes_all_or_nothing`: what publishing sends, when it commits, and what it returns.
-/

namespace Reminders.DatabaseChannel

open Database Dialogue

variable {σ : Type} {c : DatabaseChannel} {key : String} {body : Bytes} {queues : List String}

/-- The statement that writes the row of a message for a queue. -/
def insertOf (c : DatabaseChannel) (key : String) (body : Bytes) (queue : String) : Statement :=
  .query .insertMessage [.text c.exchange, .text queue, .text key, .bytes body]

/-- The row is written, whatever the reply counts. -/
def insertGate (c : DatabaseChannel) (key : String) (body : Bytes) (queue : String) :
    Gate ChannelError :=
  ⟨insertOf c key body queue, failed, fun _ => none⟩

theorem insertOf_injective : Function.Injective (insertOf c key body) := by
  intro queue queue' h
  simpa [insertOf] using h

theorem insertAll_eq : insertAll c.exchange key body queues =
    through () (queues.map (insertGate c key body)) := by
  induction queues with
  | nil => rfl
  | cons queue queues ih =>
      refine ask_eq_through (g := insertGate c key body queue) ?_ ?_ ?_
      · intro code
        rfl
      · intro reply e _ he
        cases he
      · intro reply hreply _
        cases reply with
        | failure code => exact absurd rfl (hreply code)
        | rows _ | affected _ => exact ih

theorem map_statement_insertGate :
    (queues.map (insertGate c key body)).map Gate.statement = queues.map (insertOf c key body) :=
  List.map_map

theorem areDistinct_insertGate (h : queues.Nodup) :
    Gate.AreDistinct (queues.map (insertGate c key body)) := by
  refine ⟨?_, ?_⟩
  · rw [map_statement_insertGate]
    exact h.map insertOf_injective
  · intro g hg
    obtain ⟨queue, -, rfl⟩ := List.mem_map.mp hg
    exact ⟨_, _, rfl⟩

theorem judged_none_insertGate {talk : Transcript} {queue : String} :
    (insertGate c key body queue).Judged talk none ↔
      talk.Acknowledged (insertOf c key body queue) :=
  Gate.judged_none_iff_acknowledged fun _ => rfl

theorem judged_some_insertGate {talk : Transcript} {queue : String} {err : ChannelError} :
    (insertGate c key body queue).Judged talk (some err) ↔
      ∃ code, talk.Failed (insertOf c key body queue) code ∧ failed code = err :=
  Gate.judged_some_iff_failed fun _ => rfl

/-- What is said about publishing a message on an open channel and what is returned, if the message
is routed to some queues:
* the queues are those with a binding whose pattern matches the key, in the order of their bytes;
* if there are none, nothing is sent;
* the statements are sent in order, up to some point, and then perhaps `ROLLBACK`;
* after a statement that fails nothing but `ROLLBACK` is sent;
* the row for a queue is written once the rows for all queues before it are written;
* `COMMIT` is sent once the rows for all queues are written;
* what has begun and is not committed is rolled back;
* publishing has succeeded if there are no queues or `COMMIT` is acknowledged;
* it fails as a statement of the transaction fails. -/
structure Publishes (c : DatabaseChannel) (key : String) (body : Bytes) (queues : List String)
    (talk : Transcript) (r : Except ChannelError Unit) : Prop where
  ascends : queues.Pairwise fun queue next => bytesOf queue < bytesOf next
  routes : ∀ queue, queue ∈ queues ↔
    ∃ b ∈ c.bindings, Topic.isMatch b.pattern key = true ∧ b.queue = queue
  drops : queues = [] → talk = []
  inOrder : ∃ sent, sent <+: .begin :: (queues.map (insertOf c key body) ++ [.commit]) ∧
    (talk.sent = sent ∨ talk.sent = sent ++ [.rollback])
  stops : talk.Pairwise fun turn next => turn.reply.Succeeds ∨ next.statement = .rollback
  inserts : ∀ before queue after, queues = before ++ queue :: after →
    (insertOf c key body queue ∈ talk.sent ↔ talk.Acknowledged .begin ∧
      ∀ earlier ∈ before, talk.Acknowledged (insertOf c key body earlier))
  commits : .commit ∈ talk.sent ↔
    queues ≠ [] ∧ ∀ queue ∈ queues, talk.Acknowledged (insertOf c key body queue)
  rollsBack : .rollback ∈ talk.sent ↔ talk.Acknowledged .begin ∧ ¬ talk.Acknowledged .commit
  succeeds : r = .ok () ↔ queues = [] ∨ talk.Acknowledged .commit
  faults : ∀ err, r = .error err ↔
    ∃ s ∈ .begin :: (queues.map (insertOf c key body) ++ [.commit]),
      ∃ code, talk.Failed s code ∧ failed code = err

section Publishing

variable {talk : Transcript} {r : Except ChannelError Unit}

theorem pairwise_bytesOf_route :
    (route c.bindings key).Pairwise fun queue next => bytesOf queue < bytesOf next :=
  (pairwise_queuesOf _).imp bytesOf_lt_iff.mpr

/-- A message that is routed to no queue is dropped. -/
theorem publishes_of_unrouted (h : route c.bindings key = []) :
    Publishes c key body (route c.bindings key) [] (.ok ()) := by
  refine ⟨pairwise_bytesOf_route, fun _ => mem_route, fun _ => rfl, ⟨[], by simp, .inl rfl⟩, .nil,
    ?_, ?_, ?_, ?_, ?_⟩
  · intro before queue after hqueues
    simp [h] at hqueues
  · simp [Transcript.sent, h]
  · simp [Transcript.sent, Transcript.Acknowledged]
  · simp [h]
  · simp [Transcript.Failed]

/-- A transaction with one gate for each queue publishes the message as described. -/
theorem publishes_of_settles (hne : route c.bindings key ≠ [])
    (h : Settles failed () ((route c.bindings key).map (insertGate c key body)) talk r) :
    Publishes c key body (route c.bindings key) talk r := by
  have hd : Gate.AreDistinct ((route c.bindings key).map (insertGate c key body)) :=
    areDistinct_insertGate (nodup_route _ _)
  have hsent := h.sent_isPrefix
  rw [map_statement_insertGate] at hsent
  have hinserts : ∀ before queue after, route c.bindings key = before ++ queue :: after →
      (insertOf c key body queue ∈ talk.sent ↔ talk.Acknowledged .begin ∧
        ∀ earlier ∈ before, talk.Acknowledged (insertOf c key body earlier)) := by
    intro before queue after hqueues
    have hinsert : insertOf c key body queue ∈ talk.sent ↔ _ :=
      h.sent_iff (g := insertGate c key body queue) hd (by rw [hqueues, List.map_append]; rfl)
    rw [hinsert]
    simp [judged_none_insertGate]
  refine ⟨pairwise_bytesOf_route, fun _ => mem_route, fun hnil => absurd hnil hne, hsent,
    h.pairwise_succeeds_or_rollback, hinserts, ?_, h.rollback_sent_iff hd, ?_, ?_⟩
  · rw [h.commit_sent_iff hd]
    simp only [List.forall_mem_map, judged_none_insertGate]
    refine ⟨fun hcommit => ⟨hne, hcommit.2⟩, ?_⟩
    rintro ⟨-, hall⟩
    obtain ⟨queue, queues, hqueues⟩ := List.exists_cons_of_ne_nil hne
    obtain ⟨reply, hmem, -⟩ := hall queue (by simp [hqueues])
    have hqueue := (hinserts [] queue queues hqueues).mp (Transcript.mem_sent.mpr ⟨reply, hmem⟩)
    exact ⟨hqueue.1, hall⟩
  · rw [← h.ok_iff hd, or_iff_right hne]
    constructor
    · intro hr
      exact ⟨(), hr⟩
    · rintro ⟨⟨⟩, hr⟩
      exact hr
  · intro err
    rw [h.error_iff hd]
    simp only [List.mem_cons, List.mem_append, List.not_mem_nil, or_false, List.mem_map,
      exists_exists_and_eq_and, judged_some_insertGate, or_and_right, exists_or, exists_eq_left]
    exact or_assoc.trans (or_congr_right or_comm)

end Publishing

/-- **Publishing is all or nothing.**  Whatever the database replies, publishing a message ends
with a result: on a closed channel nothing is sent, and on an open one either every queue that the
message is routed to gets it or none does. -/
theorem publishes_all_or_nothing (peer : Statement → StateM σ Reply) (w : σ) (c : DatabaseChannel)
    (key : String) (body : Bytes) :
    ∃ r, ((c.publish key body).run peer w).1 = some r ∧
      if c.isClosed then (c.publish key body).transcript peer w = [] ∧ r = .error .closed
      else Publishes c key body (route c.bindings key)
        ((c.publish key body).transcript peer w) r := by
  by_cases hclosed : c.isClosed = true
  · simp only [publish, hclosed, if_true]
    exact ⟨_, rfl, rfl, rfl⟩
  · by_cases hqueues : route c.bindings key = []
    · have hpublish : c.publish key body = .done (.ok ()) := by
        simp [publish, hclosed, hqueues]
      rw [hpublish]
      refine ⟨_, rfl, ?_⟩
      rw [if_neg hclosed]
      exact publishes_of_unrouted hqueues
    · have hpublish : c.publish key body = transaction failed
          (through () ((route c.bindings key).map (insertGate c key body))) := by
        simp [publish, hclosed, hqueues, insertAll_eq]
      rw [hpublish]
      obtain ⟨r, hr, hsettles⟩ := settles_run peer w
      refine ⟨r, hr, ?_⟩
      rw [if_neg hclosed]
      exact publishes_of_settles hqueues hsettles

end Reminders.DatabaseChannel
