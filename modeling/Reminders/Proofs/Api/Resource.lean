import Reminders.Proofs.Api.Dispatch
import Reminders.Proofs.Api.Service
import Reminders.Proofs.Api.View

/-!
# Api — each event as a resource

Events are written by the methods `POST`, `PUT` and
`DELETE` only, and only with the responses 201, 200 and 204.  What was written can be read under its
id until it is replaced or removed there: requests for other events leave it alone.

* `outcome_respond`: all that a request can do, with what its client is told.
* `stores_respond`: what a request leaves alone.
* `respond_get`, `respond_put`: what the methods of an event do where they succeed.
-/

namespace Reminders

section Respond

variable {storage apiPrefix fresh id : String} {r : Request} {s : MemoryStore}

/-- A request that reaches a handler, and asks for more than a head, gets its response. -/
theorem service_of_reaches {task : EventTask} (h : r.Reaches apiPrefix fresh task)
    (hm : r.method ≠ .head) :
    (MemoryStore.service storage apiPrefix).respond fresh r s =
      task.handle MemoryStore.store s := by
  have hrespond : (MemoryStore.service storage apiPrefix).respond fresh r =
      r.shown <$> task.handle MemoryStore.store :=
    respond_of_reaches h
  have hshown : r.shown = id := funext fun _ => if_neg hm
  rw [hrespond, hshown, id_map]

/-! ### What a request can do -/

/-- How a request ends: the response, and the store that it leaves behind. -/
inductive Outcome (apiPrefix fresh : String) (r : Request) (s : MemoryStore) :
    Response × MemoryStore → Prop where
  /-- Nothing is written, and no client that meant to write is told that it was. -/
  | unwritten {response : Response}
      (h : r.method = .post ∨ r.method = .put ∨ r.method = .delete → 400 ≤ response.status) :
      Outcome apiPrefix fresh r s (response, s)
  /-- An event is added under an id that was free. -/
  | added {request : EventRequest} {e : Event} (hm : r.method = .post)
      (hrequest : r.eventRequest = .ok request) (he : request.toEvent fresh = .ok e)
      (hfree : ∀ other, ¬ s.Stores fresh other) :
      Outcome apiPrefix fresh r s
        (.json 201 (CreatedEvent.encode ⟨fresh, request.view fresh⟩), s.put e)
  /-- The event that the path names is replaced. -/
  | replaced {id : String} {request : EventRequest} {e other : Event} (hm : r.method = .put)
      (haddresses : r.Addresses apiPrefix id) (hrequest : r.eventRequest = .ok request)
      (he : request.toEvent id = .ok e) (ho : s.Stores id other) (ha : s.Admits e) :
      Outcome apiPrefix fresh r s (.json 200 (request.view id).encode, s.put e)
  /-- The event that the path names is removed. -/
  | removed {id : String} (hm : r.method = .delete) (haddresses : r.Addresses apiPrefix id) :
      Outcome apiPrefix fresh r s ({ status := 204 }, s.remove id)

theorem Outcome.of_reading {x : Response × MemoryStore} (hm : r.method = .get ∨ r.method = .head)
    (h : x.2 = s) : Outcome apiPrefix fresh r s x := by
  obtain ⟨response, s'⟩ := x
  obtain rfl : s' = s := h
  exact .unwritten fun h => by rcases hm with hm | hm <;> simp [hm] at h

theorem Outcome.refused {status : Nat} {message : String} (h : 400 ≤ status) :
    Outcome apiPrefix fresh r s (.error status message, s) :=
  .unwritten fun _ => h

theorem status_of_eventRequest {response : Response} (h : r.eventRequest = .error response) :
    400 ≤ response.status := by
  rw [Request.eventRequest] at h
  repeat' split at h
  all_goals first | cases h; exact Nat.le_of_ble_eq_true rfl | cases h

/-- The event of a request gets its id from the store, and nothing else. -/
theorem EventRequest.toEvent_identified {request : EventRequest} {e : Event} (fresh : String)
    (h : request.toEvent "" = .ok e) : request.toEvent fresh = .ok (e.identified fresh) := by
  have hidentified : e.identified fresh = { e with id := fresh } := by
    rw [Event.identified, id_of_toEvent h]
    rfl
  obtain ⟨hsizes, hstart, hend, hnotice, hvalid, _, hrest⟩ := toEvent_eq_ok.mp h
  rw [hidentified]
  exact toEvent_eq_ok.mpr ⟨hsizes, hstart, hend, hnotice, hvalid, rfl, hrest⟩

theorem outcome_handleCreate {request : EventRequest} (hm : r.method = .post)
    (hrequest : r.eventRequest = .ok request) :
    Outcome apiPrefix fresh r s (MemoryStore.store.handleCreate fresh request s) := by
  rw [EventStore.handleCreate]
  cases he : request.toEvent "" with
  | error error => exact .refused (by decide)
  | ok e =>
      have hc : MemoryStore.store.create fresh e s = s.create fresh e := rfl
      have he' := EventRequest.toEvent_identified fresh he
      simp only [bind, StateT.bind, hc]
      rcases s.create_cases fresh e with ⟨_, _, h⟩ | ⟨_, _, _, _, h⟩ | ⟨hfree, _, h⟩
      · rw [h]
        exact .refused (by decide)
      · rw [h]
        exact .refused (by decide)
      · have hid : (e.identified fresh).id = fresh := EventRequest.id_of_toEvent he'
        rw [hid] at h hfree
        have hview : EventResponse.ofEvent { e with id := fresh } = request.view fresh :=
          congrArg (fun v : EventResponse => { v with id := fresh })
            (EventRequest.ofEvent_of_toEvent he)
        rw [h]
        refine (?_ : Outcome apiPrefix fresh r s (.json 201 (CreatedEvent.encode
          ⟨fresh, .ofEvent { e with id := fresh }⟩), s.put (e.identified fresh)))
        rw [hview]
        exact .added hm hrequest he' hfree

theorem outcome_handleUpdate {request : EventRequest} (hm : r.method = .put)
    (haddresses : r.Addresses apiPrefix id) (hrequest : r.eventRequest = .ok request) :
    Outcome apiPrefix fresh r s (MemoryStore.store.handleUpdate id request s) := by
  rw [EventStore.handleUpdate]
  cases he : request.toEvent id with
  | error error => exact .refused (by decide)
  | ok e =>
      have hu : MemoryStore.store.update e s = s.update e := rfl
      simp only [bind, StateT.bind, hu]
      rcases s.update_cases e with ⟨_, h⟩ | ⟨_, _, _, _, h⟩ | ⟨⟨other, ho⟩, ha, h⟩
      · rw [h]
        exact .refused (by decide)
      · rw [h]
        exact .refused (by decide)
      · rw [EventRequest.id_of_toEvent he] at ho
        rw [h]
        refine (?_ : Outcome apiPrefix fresh r s
          (.json 200 (EventResponse.ofEvent e).encode, s.put e))
        rw [EventRequest.ofEvent_of_toEvent he]
        exact .replaced hm haddresses hrequest he ho ha

theorem outcome_handleDelete (hm : r.method = .delete) (haddresses : r.Addresses apiPrefix id) :
    Outcome apiPrefix fresh r s (MemoryStore.store.handleDelete id s) := by
  have hd : MemoryStore.store.delete id s = s.delete id := rfl
  simp only [EventStore.handleDelete, bind, StateT.bind, hd]
  rcases s.delete_cases id with ⟨_, h⟩ | ⟨_, h⟩
  · rw [h]
    exact .refused (by decide)
  · rw [h]
    exact .removed hm haddresses

theorem outcome_respondEvents (hm : r.method ∈ Route.events.methods) :
    Outcome apiPrefix fresh r s
      ((MemoryStore.service storage apiPrefix).respondEvents fresh r s) := by
  have hmethod : r.method = .post ∨ r.method = .get ∨ r.method = .head := by
    simpa [Route.methods] using hm
  rw [Api.respondEvents]
  rcases hmethod with hpost | hreading
  · simp only [hpost]
    cases hrequest : r.eventRequest with
    | error response => exact .unwritten fun _ => status_of_eventRequest hrequest
    | ok request => exact outcome_handleCreate hpost hrequest
  · have hreads := hreading
    rcases hreading with h | h
    all_goals
      simp only [h]
      cases ListFilter.ofQuery? r.query with
      | none => exact .of_reading hreads rfl
      | some filter =>
          obtain ⟨_, hlist, _⟩ := handleList_cases filter s
          exact .of_reading hreads (congrArg Prod.snd hlist)

theorem outcome_respondEvent (haddresses : r.Addresses apiPrefix id) {segment : String}
    (hm : r.method ∈ (Route.event segment).methods) :
    Outcome apiPrefix fresh r s ((MemoryStore.service storage apiPrefix).respondEvent id r s) := by
  have hmethod : r.method = .get ∨ r.method = .head ∨ r.method = .put ∨ r.method = .delete := by
    simpa [Route.methods] using hm
  obtain ⟨_, hget, _⟩ := handleGet_cases id s
  rw [Api.respondEvent]
  rcases hmethod with hm | hm | hm | hm
  · simp only [hm]
    exact .of_reading (.inl hm) (congrArg Prod.snd hget)
  · simp only [hm]
    exact .of_reading (.inr hm) (congrArg Prod.snd hget)
  · simp only [hm]
    cases hrequest : r.eventRequest with
    | error response => exact .unwritten fun _ => status_of_eventRequest hrequest
    | ok request => exact outcome_handleUpdate hm haddresses hrequest
  · simp only [hm]
    exact outcome_handleDelete hm haddresses

theorem outcome_respondInFull (storage apiPrefix fresh : String) (r : Request) (s : MemoryStore) :
    Outcome apiPrefix fresh r s
      ((MemoryStore.service storage apiPrefix).respondInFull fresh r s) := by
  rw [Api.respondInFull]
  cases hpath : Route.ofPath? (MemoryStore.service storage apiPrefix).apiPrefix r.path with
  | none => exact .unwritten fun _ => show 400 ≤ 404 by decide
  | some route =>
      simp only
      split
      · exact .unwritten fun _ => show 400 ≤ 405 by decide
      · next hallowed =>
          have hm : r.method ∈ route.methods := by simpa using hallowed
          cases route with
          | health => exact .of_reading (by simpa [Route.methods] using hm) rfl
          | description => exact .of_reading (by simpa [Route.methods] using hm) rfl
          | events => exact outcome_respondEvents hm
          | event segment =>
              dsimp only
              cases hid : textOf? (Text.percentDecode (bytesOf segment)) with
              | none => exact .unwritten fun _ => show 400 ≤ 400 by decide
              | some id => exact outcome_respondEvent ⟨segment, hpath, hid⟩ hm

/-- **What a request can do.**  Every request ends in one of the four ways. -/
theorem outcome_respond (storage apiPrefix fresh : String) (r : Request) (s : MemoryStore) :
    Outcome apiPrefix fresh r s ((MemoryStore.service storage apiPrefix).respond fresh r s) := by
  have h := outcome_respondInFull storage apiPrefix fresh r s
  have hr : (MemoryStore.service storage apiPrefix).respond fresh r s =
      (if r.method = .head then
          { ((MemoryStore.service storage apiPrefix).respondInFull fresh r s).1 with
            content := .empty }
        else ((MemoryStore.service storage apiPrefix).respondInFull fresh r s).1,
        ((MemoryStore.service storage apiPrefix).respondInFull fresh r s).2) := rfl
  rw [hr]
  split
  · next hhead =>
      generalize (MemoryStore.service storage apiPrefix).respondInFull fresh r s = x at h
      cases h with
      | unwritten _ => exact .of_reading (.inr hhead) rfl
      | added hm | replaced hm | removed hm => exact absurd (hhead.symm.trans hm) nofun
  · exact h

/-! ### What a request leaves alone -/

/-- The request replaces or removes the event with this id. -/
def Request.Overwrites (storage apiPrefix fresh : String) (r : Request) (s : MemoryStore)
    (id : String) : Prop :=
  r.Addresses apiPrefix id ∧
    (r.method = .put ∧ ((MemoryStore.service storage apiPrefix).respond fresh r s).1.status = 200 ∨
      r.method = .delete ∧
        ((MemoryStore.service storage apiPrefix).respond fresh r s).1.status = 204)

/-- An event stays as it is until a request replaces or removes it. -/
theorem stores_respond {e : Event} (he : s.Stores id e)
    (h : ¬ r.Overwrites storage apiPrefix fresh s id) :
    ((MemoryStore.service storage apiPrefix).respond fresh r s).2.Stores id e := by
  have houtcome := outcome_respond storage apiPrefix fresh r s
  rw [Request.Overwrites] at h
  generalize (MemoryStore.service storage apiPrefix).respond fresh r s = x at h houtcome
  cases houtcome with
  | unwritten _ => exact he
  | added _ _ he' hfree =>
      refine MemoryStore.stores_put.mpr (.inr ⟨?_, he⟩)
      rintro rfl
      exact hfree e (EventRequest.id_of_toEvent he' ▸ he)
  | replaced hm haddresses _ he' _ _ =>
      refine MemoryStore.stores_put.mpr (.inr ⟨?_, he⟩)
      rintro rfl
      exact h ⟨EventRequest.id_of_toEvent he' ▸ haddresses, .inl ⟨hm, rfl⟩⟩
  | removed hm haddresses =>
      refine MemoryStore.stores_remove.mpr ⟨?_, he⟩
      rintro rfl
      exact h ⟨haddresses, .inr ⟨hm, rfl⟩⟩

/-! ### Methods that succeed -/

theorem respond_get {e : Event} (hm : r.method = .get) (haddresses : r.Addresses apiPrefix id)
    (he : s.Stores id e) :
    (MemoryStore.service storage apiPrefix).respond fresh r s =
      (.json 200 (EventResponse.ofEvent e).encode, s) := by
  have hg : MemoryStore.store.get id s = (.ok e, s) :=
    congrArg (·, s) (MemoryStore.get_of_stores he)
  rw [service_of_reaches (.get haddresses (.inl hm)) (by rw [hm]; nofun)]
  exact (bind_of_eq_pure hg).trans rfl

theorem respond_put {request : EventRequest} {e other : Event} (hm : r.method = .put)
    (haddresses : r.Addresses apiPrefix id) (hrequest : r.eventRequest = .ok request)
    (he : request.toEvent id = .ok e) (ho : s.Stores id other) (ha : s.Admits e) :
    (MemoryStore.service storage apiPrefix).respond fresh r s =
      (.json 200 (request.view id).encode, s.put e) := by
  have hheld : ∃ other, s.Stores e.id other := ⟨other, EventRequest.id_of_toEvent he ▸ ho⟩
  have hu : MemoryStore.store.update e s = (.ok (), s.put e) :=
    MemoryStore.update_of_admits hheld ha
  rw [service_of_reaches (.update haddresses hm hrequest) (by rw [hm]; nofun), EventTask.handle,
    EventStore.handleUpdate, he, ← EventRequest.ofEvent_of_toEvent he]
  exact (bind_of_eq_pure hu).trans rfl

/-- What can be got is stored. -/
theorem stores_of_respond_get {body : Bytes} (hm : r.method = .get)
    (haddresses : r.Addresses apiPrefix id)
    (h : ((MemoryStore.service storage apiPrefix).respond fresh r s).1 = .json 200 body) :
    ∃ e, s.Stores id e ∧ body = (EventResponse.ofEvent e).encode := by
  by_cases hheld : ∃ e, s.Stores id e
  · obtain ⟨e, he⟩ := hheld
    rw [respond_get hm haddresses he] at h
    exact ⟨e, he, (Content.json.inj (congrArg Response.content h)).symm⟩
  · have hg : MemoryStore.store.get id s = (.error (.notFound id), s) :=
      congrArg (·, s) (MemoryStore.get_of_not_stores fun e he => hheld ⟨e, he⟩)
    have hmissing : (MemoryStore.service storage apiPrefix).respond fresh r s =
        ((StoreError.notFound id).response, s) := by
      rw [service_of_reaches (.get haddresses (.inl hm)) (by rw [hm]; nofun)]
      exact (bind_of_eq_pure hg).trans rfl
    rw [hmissing] at h
    exact absurd (congrArg Response.status h) (show 404 ≠ 200 by decide)

end Respond

end Reminders
