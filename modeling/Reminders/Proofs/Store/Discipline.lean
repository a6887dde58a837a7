import Reminders.Proofs.Database.Protocol
import Reminders.Proofs.Database.Table

/-!
# Store — the discipline of its statements

A client of the table of events is in one of six stages.  Outside a transaction it may read and
remove rows.  Inside it may add a row only once it holds the lock of the owner and has then found no
row that the new one would overlap; after that it may only read and end the transaction.

* `store_keeps_discipline`: every operation of the store in a database keeps this discipline, and it
  ends outside a transaction.
-/

namespace Reminders.DatabaseStore

open Database Database.Dialogue

/-- How far a client of the table has got. -/
inductive Stage where
  | outside
  /-- In a transaction. -/
  | begun
  /-- In a transaction that holds the lock of the user. -/
  | guarded (userId : String)
  /-- As before; no row of the user under another id meets the time between `first` and `last`. -/
  | checked (userId id : String) (first last : Int)
  /-- In a transaction that has written one row. -/
  | written
  /-- In a transaction of which a statement failed. -/
  | failed
deriving DecidableEq

namespace Stage

/-- What may be sent. -/
def Allows : Stage → Statement → Prop
  | .outside, .query q _ => ¬ q.Adds
  | .outside, _ => True
  | .failed, s => s ≠ .begin
  | .checked userId id first last, .query q parameters => ¬ q.Removes ∧ (q.Adds →
      ∃ row, EventRow.ofValues? parameters = some row ∧ row.userId = userId ∧ row.id = id ∧
        row.startTime = first ∧ row.endTime = last)
  | _, .query q _ => ¬ q.Adds ∧ ¬ q.Removes
  | _, s => s ≠ .begin

/-- The stage after a query in a transaction has succeeded. -/
def after (stage : Stage) (q : Query) (parameters : List Value) (reply : Reply) : Stage :=
  match stage with
  | .begun =>
    match q, parameters with
    | .lockUser, [.text userId] => .guarded userId
    | _, _ => .begun
  | .guarded userId =>
    match q, parameters with
    | .overlappingEvent, [.text userId', .text id, .time first, .time last] =>
      if userId' = userId ∧ reply.found = [] then .checked userId id first last
      else .guarded userId
    | _, _ => .guarded userId
  | .checked userId id first last =>
    match q with
    | .insertEvent | .updateEvent => .written
    | _ => .checked userId id first last
  | stage => stage

/-- The stage after a statement and its reply. -/
def next : Stage → Statement → Reply → Stage
  | .outside, .begin, .failure _ => .outside
  | .outside, .begin, _ => .begun
  | .outside, _, _ => .outside
  | _, .commit, _ | _, .rollback, _ => .outside
  | stage, .begin, _ => stage
  | _, .query .., .failure _ => .failed
  | stage, .query q parameters, reply => stage.after q parameters reply

theorem after_begun (q : Query) (parameters : List Value) (reply : Reply) :
    begun.after q parameters reply = .begun ∨
      ∃ userId, q = .lockUser ∧ parameters = [.text userId] ∧
        begun.after q parameters reply = .guarded userId := by
  simp only [after]
  split
  · exact .inr ⟨_, rfl, rfl, rfl⟩
  · exact .inl rfl

theorem after_guarded (userId : String) (q : Query) (parameters : List Value) (reply : Reply) :
    (guarded userId).after q parameters reply = .guarded userId ∨
      ∃ id first last, q = .overlappingEvent ∧
        parameters = [.text userId, .text id, .time first, .time last] ∧ reply.found = [] ∧
        (guarded userId).after q parameters reply = .checked userId id first last := by
  simp only [after]
  split
  · split
    · next h =>
        obtain ⟨rfl, hfound⟩ := h
        exact .inr ⟨_, _, _, rfl, rfl, hfound, rfl⟩
    · exact .inl rfl
  · exact .inl rfl

theorem after_checked {userId id : String} {first last : Int} {q : Query} (hq : ¬ q.Adds)
    (parameters : List Value) (reply : Reply) :
    (checked userId id first last).after q parameters reply = .checked userId id first last := by
  cases q with
  | insertEvent | updateEvent => exact absurd trivial hq
  | _ => rfl

theorem after_checked_of_adds {userId id : String} {first last : Int} {q : Query} (hq : q.Adds)
    (parameters : List Value) (reply : Reply) :
    (checked userId id first last).after q parameters reply = .written := by
  cases q with
  | insertEvent | updateEvent => rfl
  | _ => cases hq

end Stage

/-- The discipline as a protocol. -/
def discipline : Protocol Stage where
  Allows := Stage.Allows
  next := Stage.next

/-! ### Transactions -/

theorem keeps_query {σ : Type} {P : Protocol σ} {x : σ} {q : Query} {parameters : List Value}
    {Q : σ → Except StoreError Reply → Prop} :
    (query q parameters).run.Keeps P x Q ↔ P.Allows x (.query q parameters) ∧
      (∀ code, Q (P.next x (.query q parameters) (.failure code)) (.error (failed code))) ∧
      ∀ reply : Reply, reply.Succeeds → Q (P.next x (.query q parameters) reply) (.ok reply) := by
  refine and_congr_right fun _ => Reply.forall_iff.trans
    (and_congr_right fun _ => forall_congr' fun reply => ?_)
  refine forall_congr' fun h => ?_
  cases reply with
  | failure code => exact absurd rfl (h code)
  | rows _ | affected _ => exact .rfl

/-- A transaction that was begun can be ended at every stage. -/
theorem keeps_conclude {α : Type} {stage : Stage} (h : stage ≠ .outside) (r : Except StoreError α) :
    (conclude failed r).Keeps discipline stage fun stage _ => stage = .outside := by
  cases r with
  | error e =>
      rw [keeps_conclude_error]
      cases stage with
      | outside => exact absurd rfl h
      | _ => exact ⟨nofun, fun _ => rfl⟩
  | ok a =>
      rw [keeps_conclude_ok]
      cases stage with
      | outside => exact absurd rfl h
      | _ => exact ⟨nofun, fun _ => ⟨trivial, fun _ => rfl⟩, fun _ _ => rfl⟩

theorem keeps_transaction_of_work {α : Type} {work : Dialogue (Except StoreError α)}
    (h : work.Keeps discipline .begun fun stage _ => stage ≠ .outside) :
    (transaction failed work).Keeps discipline .outside fun stage _ => stage = .outside := by
  refine keeps_transaction trivial (fun _ => rfl) fun reply hreply => ?_
  have hbegun : discipline.next .outside .begin reply = .begun := by
    cases reply with
    | failure code => exact absurd rfl (hreply code)
    | rows _ | affected _ => rfl
  rw [hbegun]
  exact h.mono fun _ r hstage => keeps_conclude hstage r

/-- A query inside a transaction that does not fail. -/
theorem next_query {stage : Stage} {q : Query} {parameters : List Value} {reply : Reply}
    (hs : stage ≠ .outside) (h : reply.Succeeds) :
    discipline.next stage (.query q parameters) reply = stage.after q parameters reply := by
  cases stage with
  | outside => exact absurd rfl hs
  | _ =>
      cases reply with
      | failure code => exact absurd rfl (h code)
      | rows _ | affected _ => rfl

theorem next_failure {stage : Stage} {q : Query} {parameters : List Value} {code : String}
    (hs : stage ≠ .outside) :
    discipline.next stage (.query q parameters) (.failure code) = .failed := by
  cases stage with
  | outside => exact absurd rfl hs
  | _ => rfl

/-- A query inside a transaction and what follows it. -/
theorem keeps_query_bind {α : Type} {stage : Stage} {q : Query} {parameters : List Value}
    {f : Reply → Step α} {Q : Stage → Except StoreError α → Prop} (hs : stage ≠ .outside)
    (ha : stage.Allows (.query q parameters)) (hf : ∀ code, Q .failed (.error (failed code)))
    (hr : ∀ reply : Reply, reply.Succeeds →
      (f reply).run.Keeps discipline (stage.after q parameters reply) Q) :
    (query q parameters >>= f).run.Keeps discipline stage Q := by
  refine keeps_run_bind.mpr (keeps_query.mpr ⟨ha, fun code => ?_, fun reply h => ?_⟩)
  · rw [next_failure hs]
    exact hf code
  · rw [next_query hs h]
    exact hr reply h

/-- The lock of the owner is taken first. -/
theorem keeps_lockUser (userId : String) :
    (lockUser userId).run.Keeps discipline .begun fun stage r =>
      stage ≠ .outside ∧ (r = .ok () → stage = .guarded userId) :=
  keeps_query_bind nofun ⟨id, id⟩ (fun _ => ⟨nofun, nofun⟩) fun _ _ => ⟨nofun, fun _ => rfl⟩

/-- Once no overlapping row was found, the client may add its row. -/
theorem keeps_checkOverlap (e : Event) :
    (checkOverlap e).run.Keeps discipline (.guarded e.userId) fun stage r =>
      stage ≠ .outside ∧ (r = .ok () → stage =
        .checked e.userId e.id (microsOf e.startTime) (microsOf e.endTime)) := by
  refine keeps_query_bind nofun ⟨id, id⟩ (fun _ => ⟨nofun, nofun⟩) fun reply _ => ?_
  simp only [Stage.after, Value.ofInstant, true_and]
  cases reply.found with
  | nil => exact ⟨nofun, fun _ => rfl⟩
  | cons row rows =>
      refine keeps_run_bind.mpr ?_
      cases textAt row 0 "id" with
      | error e' => exact ⟨nofun, nofun⟩
      | ok id' => exact ⟨nofun, nofun⟩

/-- The row that may be written after a successful check is the one that was checked. -/
theorem allows_write {e : Event} {q : Query} (hq : ¬ q.Removes) :
    Stage.Allows (.checked e.userId e.id (microsOf e.startTime) (microsOf e.endTime))
      (.query q (valuesOf e)) :=
  ⟨hq, fun _ => ⟨.ofEvent e, rfl, rfl, rfl, rfl, rfl⟩⟩

/-- What may be done with the lock of the owner may be done after taking it. -/
theorem keeps_lockUser_then {α : Type} {userId : String} {work : Step α}
    (h : work.run.Keeps discipline (.guarded userId) fun stage _ => stage ≠ .outside) :
    (lockUser userId >>= fun _ => work).run.Keeps discipline .begun fun stage _ =>
      stage ≠ .outside := by
  refine keeps_run_bind.mpr ((keeps_lockUser userId).mono fun stage r ⟨hs, hok⟩ => ?_)
  cases r with
  | error e => exact hs
  | ok u =>
      rw [hok rfl]
      exact h

/-- What may be done with a checked row may be done after the check. -/
theorem keeps_checkOverlap_then {α : Type} {e : Event} {write : Step α}
    (h : write.run.Keeps discipline
      (.checked e.userId e.id (microsOf e.startTime) (microsOf e.endTime)) fun stage _ =>
        stage ≠ .outside) :
    (checkOverlap e >>= fun _ => write).run.Keeps discipline (.guarded e.userId) fun stage _ =>
      stage ≠ .outside := by
  refine keeps_run_bind.mpr ((keeps_checkOverlap e).mono fun stage r ⟨hs, hok⟩ => ?_)
  cases r with
  | error e' => exact hs
  | ok u =>
      rw [hok rfl]
      exact h

theorem keeps_createWork (e : Event) :
    (createWork e).run.Keeps discipline .begun fun stage _ => stage ≠ .outside := by
  refine keeps_lockUser_then (keeps_query_bind nofun ⟨id, id⟩ (fun _ => nofun) fun reply _ => ?_)
  cases reply.found.isEmpty with
  | false => exact keeps_run_bind.mpr nofun
  | true =>
      refine keeps_checkOverlap_then ?_
      refine keeps_run_bind.mpr (keeps_run_lift.mpr ⟨allows_write id, fun reply => ?_⟩)
      cases reply with
      | failure code =>
          -- A row that was there already is reported in its own way, but the transaction failed.
          simp only [Keeps]
          split <;> exact nofun
      | rows _ | affected _ => exact nofun

theorem keeps_updateWork (e : Event) :
    (updateWork e).run.Keeps discipline .begun fun stage _ => stage ≠ .outside := by
  refine keeps_lockUser_then (keeps_query_bind nofun ⟨id, id⟩ (fun _ => nofun) fun reply _ => ?_)
  cases reply.found.isEmpty with
  | true => exact keeps_run_bind.mpr nofun
  | false =>
      refine keeps_checkOverlap_then ?_
      exact keeps_query_bind nofun (allows_write id) (fun _ => nofun) fun _ _ => nofun

/-! ### Single statements -/

/-- A single query that adds nothing is sent outside a transaction, and the client stays there. -/
theorem keeps_single {α : Type} {q : Query} {parameters : List Value} {f : Reply → Step α}
    (hq : ¬ q.Adds)
    (hf : ∀ reply, (f reply).run.Keeps discipline .outside fun stage _ => stage = .outside) :
    (query q parameters >>= f).run.Keeps discipline .outside fun stage _ => stage = .outside :=
  keeps_run_bind.mpr (keeps_query.mpr ⟨hq, fun _ => rfl, fun reply _ => hf reply⟩)

/-- **The store keeps the discipline.**  So does every operation, with any arguments and whatever is
replied to it, and it ends outside a transaction. -/
theorem store_keeps_discipline (op : StoreOperation) :
    (store.perform op).Keeps discipline .outside fun stage _ => stage = .outside := by
  cases op with
  | create fresh e => exact keeps_bind.mpr (keeps_transaction_of_work (keeps_createWork _))
  | update e => exact keeps_bind.mpr (keeps_transaction_of_work (keeps_updateWork e))
  | delete id =>
      refine keeps_bind.mpr (keeps_single nofun fun reply => ?_)
      by_cases hc : reply.count = 0
      · simp only [if_pos hc]
        exact rfl
      · simp only [if_neg hc]
        exact rfl
  | deleteOlderThan cutoff => exact keeps_bind.mpr (keeps_single nofun fun reply => rfl)
  | get id =>
      refine keeps_bind.mpr (keeps_single nofun fun reply => ?_)
      cases reply.found.head? with
      | none => exact rfl
      | some row => exact rfl
  | list | listByUser _ | listByUserInRange _ _ _ | listDueBefore _ _ =>
      exact keeps_bind.mpr (keeps_single nofun fun reply => rfl)

end Reminders.DatabaseStore
