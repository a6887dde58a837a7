import Mathlib.Data.List.Basic
import Reminders.Proofs.Api.Dispatch
import Reminders.Proofs.Calls
import Reminders.Proofs.Monad
import Reminders.Proofs.Store.History

/-!
# Api — what handlers call

The task of a handler stands for one operation of the store, or is refused for its input.  The store
may be any store and answer anything: the handler calls it once or, if the task is refused, not at
all, and the status depends on the kind of the answer only.  What a store says about its own faults
is not part of any response.

* `handle_of_refused`, `handle_of_operation`: what a handler does with its task.
* `handlers_call_once`: what such a request calls, and how it is answered.
-/

namespace Reminders

/-! ### Tasks -/

variable {m : Type → Type} [Monad m] {α σ : Type}

/-- The operation that returns the listing. -/
def Selection.operation : Selection → StoreOperation
  | .all => .list
  | .ofUser userId => .listByUser userId
  | .ofUserInRange userId first last => .listByUserInRange userId first last

/-- The response to an answer that is no error. -/
def StoreOperation.completed : StoreOperation → StoreAnswer → Response
  | .create _ e, .created id => .json 201 (CreatedEvent.encode ⟨id, .ofEvent { e with id := id }⟩)
  | .create .., _ => { status := 201 }
  | .update e, _ => .json 200 (EventResponse.ofEvent e).encode
  | .delete _, _ => { status := 204 }
  | _, .event e => .json 200 (EventResponse.ofEvent e).encode
  | _, .events es => .json 200 (encodeListing es)
  | _, _ => { status := 200 }

/-- The response to an answer of the store, given the one to an answer that is no error. -/
def answered (completed : StoreAnswer → Response) : Except StoreError StoreAnswer → Response
  | .error error => error.response
  | .ok answer => completed answer

/-- A step that responds to every answer of a call alike. -/
theorem bind_answer [LawfulMonad m] (x : m (Except StoreError α)) {wrap : α → StoreAnswer}
    {completed : StoreAnswer → Response} {next : Except StoreError α → m Response}
    (h : ∀ answer, next answer = pure (answered completed (answer.map wrap))) :
    x >>= next = answered completed <$> (fun r : Except StoreError α => r.map wrap) <$> x := by
  rw [Functor.map_map, map_eq_pure_bind]
  exact bind_congr h

namespace EventTask

/-- The operation that a task stands for, or what is said about its input.  A new event has no id
yet; one that is to replace another one has the id of the path. -/
def operation : EventTask → Except String StoreOperation
  | create fresh r => ((r.toEvent "").map (.create fresh)).mapError EventError.message
  | list filter => (filter.selection.map Selection.operation).mapError FilterError.message
  | get id => .ok (.get id)
  | update id r => ((r.toEvent id).map .update).mapError EventError.message
  | delete id => .ok (.delete id)

/-- The status that reports success. -/
def success : EventTask → Nat
  | create .. => 201
  | delete _ => 204
  | list _ | get _ | update .. => 200

variable {task : EventTask} {message : String} {op : StoreOperation}

theorem success_lt (task : EventTask) : task.success < 400 := by
  cases task <;> exact Nat.lt_of_sub_pos (Nat.succ_pos _)

/-- A task that is refused does not reach the store. -/
theorem handle_of_refused (h : task.operation = .error message) (store : EventStore m) :
    task.handle store = pure (.error 400 message) := by
  cases task with
  | create fresh r =>
      obtain ⟨error, he, rfl⟩ := mapError_map_eq_error.mp h
      rw [handle, EventStore.handleCreate, he]
  | list filter =>
      obtain ⟨error, he, rfl⟩ := mapError_map_eq_error.mp h
      rw [handle, EventStore.handleList, he]
  | update id r =>
      obtain ⟨error, he, rfl⟩ := mapError_map_eq_error.mp h
      rw [handle, EventStore.handleUpdate, he]
  | get _ | delete _ => cases h

theorem status_completed (h : task.operation = .ok op) (answer : StoreAnswer) :
    (op.completed answer).status = task.success := by
  cases task with
  | create fresh r =>
      obtain ⟨e, _, rfl⟩ := mapError_map_eq_ok.mp h
      cases answer <;> rfl
  | list filter =>
      obtain ⟨selection, _, rfl⟩ := mapError_map_eq_ok.mp h
      cases selection <;> cases answer <;> rfl
  | update id r =>
      obtain ⟨e, _, rfl⟩ := mapError_map_eq_ok.mp h
      rfl
  | get _ | delete _ =>
      obtain rfl := Except.ok.inj h
      cases answer <;> rfl

/-- Any other task is one call of its operation, whatever the store. -/
theorem handle_of_operation [LawfulMonad m] (h : task.operation = .ok op) (store : EventStore m) :
    task.handle store = answered op.completed <$> store.perform op := by
  cases task with
  | create fresh r =>
      obtain ⟨e, he, rfl⟩ := mapError_map_eq_ok.mp h
      simp only [handle, EventStore.handleCreate, he]
      refine bind_answer (store.create fresh e) ?_
      rintro (_ | _) <;> rfl
  | list filter =>
      obtain ⟨selection, hs, rfl⟩ := mapError_map_eq_ok.mp h
      have hselect : store.perform selection.operation =
          (fun r : Except StoreError (List Event) => r.map .events) <$> store.select selection := by
        cases selection <;> rfl
      simp only [handle, EventStore.handleList, hs]
      rw [hselect]
      refine bind_answer (store.select selection) ?_
      cases selection <;> rintro (_ | _) <;> rfl
  | get id =>
      obtain rfl := Except.ok.inj h
      refine bind_answer (store.get id) ?_
      rintro (_ | _) <;> rfl
  | update id r =>
      obtain ⟨e, he, rfl⟩ := mapError_map_eq_ok.mp h
      simp only [handle, EventStore.handleUpdate, he]
      refine bind_answer (store.update e) ?_
      rintro (_ | _) <;> rfl
  | delete id =>
      obtain rfl := Except.ok.inj h
      refine bind_answer (store.delete id) ?_
      rintro (_ | _) <;> rfl

end EventTask

/-! ### Answers of the store -/

namespace StoreError

variable {error : StoreError}

theorem status_response_eq_404 : error.response.status = 404 ↔ ∃ id, error = .notFound id := by
  cases error <;> simp [response, Response.error, Response.json]

theorem status_response_eq_409 : error.response.status = 409 ↔
    (∃ id, error = .alreadyExists id) ∨ ∃ id other, error = .conflictOverlap id other := by
  cases error <;> simp [response, Response.error, Response.json]

theorem status_response_eq_500 : error.response.status = 500 ↔
    (∃ detail, error = .database detail) ∨ ∃ detail, error = .serialization detail := by
  cases error <;> simp [response, Response.error, Response.json]

theorem lt_status_response (error : StoreError) : 400 < error.response.status := by
  cases error <;> simp [response, Response.error, Response.json]

/-- All faults of the store itself get one response. -/
theorem response_of_status_eq_500 (h : error.response.status = 500) :
    error.response = .error 500 "Internal server error" := by
  rcases status_response_eq_500.mp h with ⟨_, rfl⟩ | ⟨_, rfl⟩ <;> rfl

end StoreError

/-- The response to a fault of the store itself. -/
def Response.internalError : Response :=
  .json 500 (bytesOf "\x7b\"error\":\"Internal server error\"\x7d")

theorem error_eq_internalError :
    Response.error 500 "Internal server error" = .internalError := by
  decide +kernel

/-- What a request that gives a handler its task calls, and what it is answered, over a store with
the given answers:
* a task that is refused calls nothing and gets the status 400 and what is said about its input;
* any other task makes one call of its operation;
* the status is 400 for tasks that are refused only, 404 for events that are not found only, 409 for
  ids that are taken and for overlaps only, 500 for faults of the store only, and the one that
  reports success exactly for answers that are no errors;
* all responses with the status 500 are the same. -/
structure Request.Handled (r : Request) (task : EventTask)
    (answers : StoreOperation → Except StoreError StoreAnswer) (calls : List Call)
    (response : Response) : Prop where
  atMostOne : calls.length ≤ 1
  refused : ∀ message, task.operation = .error message →
    calls = [] ∧ response = r.shown (.error 400 message)
  called : ∀ op, task.operation = .ok op → calls = [.store op (answers op)]
  badRequest_iff : response.status = 400 ↔ ∃ message, task.operation = .error message
  notFound_iff : response.status = 404 ↔ ∃ op id, calls = [.store op (.error (.notFound id))]
  conflict_iff : response.status = 409 ↔ ∃ op error, calls = [.store op (.error error)] ∧
    ((∃ id, error = .alreadyExists id) ∨ ∃ id other, error = .conflictOverlap id other)
  internalError_iff : response.status = 500 ↔ ∃ op error, calls = [.store op (.error error)] ∧
    ((∃ detail, error = .database detail) ∨ ∃ detail, error = .serialization detail)
  success_iff : response.status = task.success ↔ ∃ op answer, calls = [.store op (.ok answer)]
  internalError : response.status = 500 → response = r.shown .internalError

section Handled

variable {r : Request} {task : EventTask} {op : StoreOperation}

theorem handled_of_refused {message : String} (h : task.operation = .error message)
    (answers : StoreOperation → Except StoreError StoreAnswer) :
    r.Handled task answers [] (r.shown (.error 400 message)) := by
  have hstatus : (r.shown (.error 400 message)).status = 400 := r.status_shown _
  have hsuccess := task.success_lt
  have hnone (call : Call) : [] ≠ [call] := (List.cons_ne_nil call []).symm
  exact {
    atMostOne := Nat.zero_le 1
    refused := fun message' h' => by
      obtain rfl : message = message' := Except.error.inj (h.symm.trans h')
      exact ⟨rfl, rfl⟩
    called := fun op h' => by
      rw [h] at h'
      cases h'
    badRequest_iff := iff_of_true hstatus ⟨message, h⟩
    notFound_iff := iff_of_false (by omega) fun ⟨_, _, h'⟩ => hnone _ h'
    conflict_iff := iff_of_false (by omega) fun ⟨_, _, h', _⟩ => hnone _ h'
    internalError_iff := iff_of_false (by omega) fun ⟨_, _, h', _⟩ => hnone _ h'
    success_iff := iff_of_false (by omega) fun ⟨_, _, h'⟩ => hnone _ h'
    internalError := fun h' => by omega }

/-- A status that does not report success is that of an error. -/
theorem status_answered_iff (h : task.operation = .ok op)
    (answer : Except StoreError StoreAnswer) {status : Nat} (hstatus : status ≠ task.success) :
    (answered op.completed answer).status = status ↔
      ∃ op' error, [Call.store op answer] = [.store op' (.error error)] ∧
        error.response.status = status := by
  cases answer with
  | error error =>
      constructor
      · intro h
        exact ⟨op, error, rfl, h⟩
      · rintro ⟨op', error', ⟨⟩, h⟩
        exact h
  | ok answer =>
      refine iff_of_false (fun h' => hstatus (h'.symm.trans (task.status_completed h answer))) ?_
      rintro ⟨op', error, ⟨⟩, _⟩

theorem handled_of_answer (h : task.operation = .ok op)
    (answers : StoreOperation → Except StoreError StoreAnswer) :
    r.Handled task answers [.store op (answers op)]
      (r.shown (answered op.completed (answers op))) := by
  have hsuccess := task.success_lt
  have herror {status : Nat} (hstatus : 400 ≤ status) :=
    status_answered_iff h (answers op) (show status ≠ task.success by omega)
  exact {
    atMostOne := Nat.le_refl 1
    refused := fun message h' => by
      rw [h] at h'
      cases h'
    called := fun op' h' => by
      obtain rfl : op = op' := Except.ok.inj (h.symm.trans h')
      rfl
    badRequest_iff := by
      rw [Request.status_shown, herror (Nat.le_refl 400)]
      refine iff_of_false ?_ ?_
      · rintro ⟨_, error, _, h'⟩
        exact absurd h' (Nat.ne_of_gt error.lt_status_response)
      · rintro ⟨message, h'⟩
        rw [h] at h'
        cases h'
    notFound_iff := by
      rw [Request.status_shown, herror (by omega)]
      constructor
      · rintro ⟨op', error, hcalls, h'⟩
        obtain ⟨id, rfl⟩ := StoreError.status_response_eq_404.mp h'
        exact ⟨op', id, hcalls⟩
      · rintro ⟨op', id, hcalls⟩
        exact ⟨op', _, hcalls, rfl⟩
    conflict_iff := by
      rw [Request.status_shown, herror (by omega)]
      simp only [StoreError.status_response_eq_409]
    internalError_iff := by
      rw [Request.status_shown, herror (by omega)]
      simp only [StoreError.status_response_eq_500]
    success_iff := by
      rw [Request.status_shown]
      cases answers op with
      | error error =>
          have hlt := error.lt_status_response
          refine iff_of_false (fun h' => ?_) ?_
          · rw [answered] at h'
            omega
          · rintro ⟨op', answer, ⟨⟩⟩
      | ok answer => exact iff_of_true (task.status_completed h answer) ⟨op, answer, rfl⟩
    internalError := fun h' => by
      revert h'
      cases answers op with
      | error error =>
          intro h'
          rw [Request.status_shown] at h'
          rw [answered, StoreError.response_of_status_eq_500 h', error_eq_internalError]
      | ok answer =>
          intro h'
          rw [Request.status_shown, answered, task.status_completed h] at h'
          omega }

end Handled

/-- The service with a log of the calls of its store. -/
def Api.watched (api : Api (StateM σ)) : Api (StateT (List Call) (StateM σ)) where
  store := api.store.watched
  storage := api.storage
  apiPrefix := api.apiPrefix

/-- **Handlers call once.**  Let a request reach a handler, over any store whatever it answers.
Watching the store changes nothing, and the request calls and is answered as described. -/
theorem handlers_call_once (api : Api (StateM σ)) {fresh : String} {r : Request} {task : EventTask}
    (h : r.Reaches api.apiPrefix fresh task) (log : List Call) (w : σ) :
    ∃ calls response w', api.respond fresh r w = (response, w') ∧
      api.watched.respond fresh r log w = ((response, log ++ calls), w') ∧
      r.Handled task (fun op => (api.store.perform op w).1) calls response := by
  have hrespond : api.respond fresh r = r.shown <$> task.handle api.store := respond_of_reaches h
  have hrespond' : api.watched.respond fresh r = r.shown <$> task.handle api.store.watched :=
    respond_of_reaches h
  have hplain := congrFun hrespond w
  have hwatched := congrFun (congrFun hrespond' log) w
  cases hop : task.operation with
  | error message =>
      rw [EventTask.handle_of_refused hop] at hplain hwatched
      refine ⟨[], _, w, hplain, hwatched.trans ?_, handled_of_refused hop _⟩
      rw [List.append_nil]
      rfl
  | ok op =>
      have hmap (x : StateT (List Call) (StateM σ) (Except StoreError StoreAnswer)) :
          (r.shown <$> answered op.completed <$> x) log w =
            ((r.shown (answered op.completed (x log w).1.1), (x log w).1.2), (x log w).2) :=
        rfl
      rw [EventTask.handle_of_operation hop] at hplain hwatched
      rw [hmap, EventStore.perform_watched] at hwatched
      exact ⟨_, _, _, hplain, hwatched, handled_of_answer hop _⟩

/-- A service whose store can do nothing and says why. -/
def brokenService (detail : String) : Api (StateM Unit) where
  store :=
    { create := fun _ _ => pure (.error (.database detail))
      update := fun _ => pure (.error (.database detail))
      delete := fun _ => pure (.error (.database detail))
      deleteOlderThan := fun _ => pure (.error (.database detail))
      get := fun _ => pure (.error (.database detail))
      list := pure (.error (.serialization detail))
      listByUser := fun _ => pure (.error (.serialization detail))
      listByUserInRange := fun _ _ _ => pure (.error (.serialization detail))
      listDueBefore := fun _ _ => pure (.error (.serialization detail)) }
  storage := "postgres"
  apiPrefix := ""

/-- What a client says about the event that lasts from the second to the third hour. -/
def secondHour : EventRequest :=
  ⟨"u1", "Meeting", none, 7200, 10800, some 300⟩

/-- A request to replace an event with that one. -/
def replacement : Request :=
  ⟨.put, "/v1/events/b", "", some "application/json", secondHour.encode⟩

/-- The request calls the store once, with the event under the id of its path, and its client does
not learn why the store is broken. -/
theorem brokenStore_tells_nothing :
    replacement.Reaches "" "" (.update "b" secondHour) ∧
      (brokenService "no password for 10.0.0.1").watched.respond "" replacement [] () =
        ((.internalError, [.store (.update (MemoryStore.sampleEvent "b" "u1" 7200 10800))
          (.error (.database "no password for 10.0.0.1"))]), ()) := by
  have hreaches : replacement.Reaches "" "" (.update "b" secondHour) :=
    .update ⟨"b", by decide +kernel, by decide +kernel⟩ rfl (by decide +kernel)
  have hevent : secondHour.toEvent "b" = .ok (MemoryStore.sampleEvent "b" "u1" 7200 10800) := by
    decide +kernel
  have hoperation : (EventTask.update "b" secondHour).operation =
      .ok (.update (MemoryStore.sampleEvent "b" "u1" 7200 10800)) := by
    rw [EventTask.operation, hevent]
    rfl
  obtain ⟨calls, response, w', -, hrun, hhandled⟩ :=
    handlers_call_once (brokenService "no password for 10.0.0.1") hreaches [] ()
  obtain rfl := hhandled.called _ hoperation
  have hstatus := hhandled.internalError_iff.mpr ⟨_, _, rfl, .inl ⟨_, rfl⟩⟩
  rw [hhandled.internalError hstatus] at hrun
  exact ⟨hreaches, hrun⟩

end Reminders
