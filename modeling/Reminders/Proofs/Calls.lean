import Reminders.Proofs.Bus.Attempts
import Reminders.Proofs.Monad
import Reminders.Store.Basic

/-!
# Calls — watching a store and a channel

A *watched* store or channel does what the given one does and keeps a log of all calls with their
answers.

* `perform_watched`: the log of an operation of a store.
-/

namespace Reminders

variable {σ α : Type}

/-- A call of an operation of a store or of a channel, with its answer. -/
inductive Call where
  | store (operation : StoreOperation) (answer : Except StoreError StoreAnswer)
  | publish (attempt : Attempt)
  | consume (queue : String) (result : Except ChannelError Unit)
  | close (result : Except ChannelError Unit)

namespace Call

/-- Makes a call and writes it down with its answer. -/
def watch (d : StateM σ α) (call : α → Call) : StateT (List Call) (StateM σ) α := do
  let answer ← StateT.lift d
  modify (· ++ [call answer])
  return answer

theorem watch_of_eq {d : StateM σ α} {w w' : σ} {a : α} (h : d w = (a, w')) (call : α → Call)
    (log : List Call) : watch d call log w = ((a, log ++ [call a]), w') := by
  have hwatch : watch d call log w = (((d w).1, log ++ [call (d w).1]), (d w).2) := rfl
  rw [hwatch, h]

end Call

/-- The store with a log of the calls. -/
def EventStore.watched (store : EventStore (StateM σ)) :
    EventStore (StateT (List Call) (StateM σ)) where
  create fresh e := Call.watch (store.create fresh e) fun r =>
    .store (.create fresh e) (r.map .created)
  update e := Call.watch (store.update e) fun r => .store (.update e) (r.map fun _ => .done)
  delete id := Call.watch (store.delete id) fun r => .store (.delete id) (r.map fun _ => .done)
  deleteOlderThan cutoff := Call.watch (store.deleteOlderThan cutoff) fun r =>
    .store (.deleteOlderThan cutoff) (r.map .removed)
  get id := Call.watch (store.get id) fun r => .store (.get id) (r.map .event)
  list := Call.watch store.list fun r => .store .list (r.map .events)
  listByUser userId := Call.watch (store.listByUser userId) fun r =>
    .store (.listByUser userId) (r.map .events)
  listByUserInRange userId first last :=
    Call.watch (store.listByUserInRange userId first last) fun r =>
      .store (.listByUserInRange userId first last) (r.map .events)
  listDueBefore now before := Call.watch (store.listDueBefore now before) fun r =>
    .store (.listDueBefore now before) (r.map .events)

/-- The channel with a log of the calls. -/
def NotificationChannel.watched (channel : NotificationChannel (StateM σ)) :
    NotificationChannel (StateT (List Call) (StateM σ)) where
  publish key body := Call.watch (channel.publish key body) fun r => .publish ⟨key, body, r⟩
  consume queue := Call.watch (channel.consume queue) fun r => .consume queue r
  close := Call.watch channel.close .close

/-- An operation of a watched store is one call; watching it changes nothing. -/
theorem EventStore.perform_watched (store : EventStore (StateM σ)) (op : StoreOperation)
    (log : List Call) (w : σ) : store.watched.perform op log w =
      (((store.perform op w).1, log ++ [.store op (store.perform op w).1]),
        (store.perform op w).2) := by
  cases op <;> rfl

end Reminders
