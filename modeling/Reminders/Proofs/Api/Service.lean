import Reminders.Api.Router
import Reminders.Proofs.Api.Request
import Reminders.Proofs.Store.History

/-!
# Api — the service over a store in memory

* `answered_respond`: all that one request can do.  It either leaves the store alone and is answered
  without a fault of the service, or it is one of three: a `POST` answered by 201, a `PUT` answered
  by 200, a `DELETE` answered by 204, each with the event that it puts or removes.
* `WellServed.answered`: a request keeps a store well served, that is, well kept and with admissible
  events only.
* `requests_keep_events_admissible`: what holds after any requests to a service over the empty
  store.
-/

namespace Reminders

open MemoryStore (Stores)

/-- The response reports no fault of the service. -/
def Response.IsFaultless (r : Response) : Prop :=
  r.status < 500

namespace Response

theorem isFaultless_json {status : Nat} {value : Bytes} (h : status < 500) :
    (json status value).IsFaultless := h

theorem isFaultless_plain {status : Nat} {text : String} (h : status < 500) :
    (plain status text).IsFaultless := h

theorem isFaultless_error {status : Nat} {message : String} (h : status < 500) :
    (error status message).IsFaultless := h

end Response

open Response

/-! ### The handlers -/

theorem handleCreate_cases (fresh : String) (r : EventRequest) (s : MemoryStore) :
    (∃ response, MemoryStore.store.handleCreate fresh r s = (response, s) ∧
        response.IsFaultless) ∨
      ∃ e, r.toEvent "" = .ok e ∧ s.Admits (e.identified fresh) ∧
        MemoryStore.store.handleCreate fresh r s =
          (.json 201 (CreatedEvent.encode ⟨(e.identified fresh).id,
            .ofEvent { e with id := (e.identified fresh).id }⟩), s.put (e.identified fresh)) := by
  rw [EventStore.handleCreate]
  cases hr : r.toEvent "" with
  | error error => exact .inl ⟨_, rfl, isFaultless_error (by decide)⟩
  | ok e =>
      have hc : MemoryStore.store.create fresh e s = s.create fresh e := rfl
      simp only [bind, StateT.bind, hc]
      rcases s.create_cases fresh e with ⟨_, _, h⟩ | ⟨_, _, _, _, h⟩ | ⟨_, ha, h⟩
      · exact .inl ⟨_, by rw [h]; rfl, isFaultless_error (by decide)⟩
      · exact .inl ⟨_, by rw [h]; rfl, isFaultless_error (by decide)⟩
      · exact .inr ⟨e, rfl, ha, by rw [h]; rfl⟩

theorem handleUpdate_cases (id : String) (r : EventRequest) (s : MemoryStore) :
    (∃ response, MemoryStore.store.handleUpdate id r s = (response, s) ∧
        response.IsFaultless) ∨
      ∃ e, r.toEvent id = .ok e ∧ (∃ other, s.Stores id other) ∧ s.Admits e ∧
        MemoryStore.store.handleUpdate id r s =
          (.json 200 (EventResponse.ofEvent e).encode, s.put e) := by
  rw [EventStore.handleUpdate]
  cases hr : r.toEvent id with
  | error error => exact .inl ⟨_, rfl, isFaultless_error (by decide)⟩
  | ok e =>
      have hu : MemoryStore.store.update e s = s.update e := rfl
      simp only [bind, StateT.bind, hu]
      rcases s.update_cases e with ⟨_, h⟩ | ⟨_, _, _, _, h⟩ | ⟨hheld, ha, h⟩
      · exact .inl ⟨_, by rw [h]; rfl, isFaultless_error (by decide)⟩
      · exact .inl ⟨_, by rw [h]; rfl, isFaultless_error (by decide)⟩
      · rw [EventRequest.id_of_toEvent hr] at hheld
        exact .inr ⟨e, rfl, hheld, ha, by rw [h]; rfl⟩

theorem handleDelete_cases (id : String) (s : MemoryStore) :
    (∃ response, MemoryStore.store.handleDelete id s = (response, s) ∧ response.IsFaultless) ∨
      MemoryStore.store.handleDelete id s = ({ status := 204 }, s.remove id) := by
  have hd : MemoryStore.store.delete id s = s.delete id := rfl
  simp only [EventStore.handleDelete, bind, StateT.bind, hd]
  rcases s.delete_cases id with ⟨_, h⟩ | ⟨_, h⟩
  · exact .inl ⟨_, by rw [h]; rfl, isFaultless_error (by decide)⟩
  · exact .inr (by rw [h]; rfl)

/-- Looking an event up changes nothing. -/
theorem handleGet_cases (id : String) (s : MemoryStore) :
    ∃ response, MemoryStore.store.handleGet id s = (response, s) ∧ response.IsFaultless := by
  have hg : MemoryStore.store.get id s = (MemoryStore.get id s, s) := rfl
  simp only [EventStore.handleGet, bind, StateT.bind, hg, MemoryStore.get]
  cases s.events[id]? with
  | none => exact ⟨_, rfl, isFaultless_error (by decide)⟩
  | some e => exact ⟨_, rfl, isFaultless_json (by decide)⟩

/-- Listing events changes nothing. -/
theorem handleList_cases (filter : ListFilter) (s : MemoryStore) :
    ∃ response, MemoryStore.store.handleList filter s = (response, s) ∧ response.IsFaultless := by
  rw [EventStore.handleList]
  cases filter.selection with
  | error error => exact ⟨_, rfl, isFaultless_error (by decide)⟩
  | ok selection => cases selection <;> exact ⟨_, rfl, isFaultless_json (by decide)⟩

/-- The content of a request that is no event is refused without a fault. -/
theorem isFaultless_of_eventRequest {r : Request} {response : Response}
    (h : r.eventRequest = .error response) : response.IsFaultless := by
  rw [Request.eventRequest] at h
  repeat' split at h
  all_goals first | cases h; exact isFaultless_plain (by decide) | cases h

/-! ### The service -/

/-- The service over a store in memory. -/
def MemoryStore.service (storage apiPrefix : String) : Api (StateM MemoryStore) where
  store := MemoryStore.store
  storage := storage
  apiPrefix := apiPrefix

/-- What an answered request leaves behind: a response and the store.  The store is as it was and
the response reports no fault, or an event was put or removed by the one method and with the one
status that stand for it. -/
inductive Answered (fresh : String) (r : Request) (s : MemoryStore) :
    Response × MemoryStore → Prop where
  | unchanged {response : Response} (h : response.IsFaultless) : Answered fresh r s (response, s)
  | created {response : Response} {request : EventRequest} {e : Event} (hm : r.method = .post)
      (hs : response.status = 201) (he : request.toEvent "" = .ok e)
      (ha : s.Admits (e.identified fresh)) :
      Answered fresh r s (response, s.put (e.identified fresh))
  | updated {response : Response} {request : EventRequest} {id : String} {e other : Event}
      (hm : r.method = .put) (hs : response.status = 200) (he : request.toEvent id = .ok e)
      (ho : s.Stores id other) (ha : s.Admits e) : Answered fresh r s (response, s.put e)
  | deleted {response : Response} {id : String} (hm : r.method = .delete)
      (hs : response.status = 204) : Answered fresh r s (response, s.remove id)

theorem Answered.of_eq {fresh : String} {r : Request} {s : MemoryStore}
    {x y : Response × MemoryStore} (h : x = y) (hy : Answered fresh r s y) :
    Answered fresh r s x :=
  h ▸ hy

variable (storage apiPrefix fresh : String) (r : Request) (s : MemoryStore)

theorem answered_respondEvents :
    Answered fresh r s ((MemoryStore.service storage apiPrefix).respondEvents fresh r s) := by
  rw [Api.respondEvents]
  cases hm : r.method with
  | post =>
      cases hr : r.eventRequest with
      | error response => exact .unchanged (isFaultless_of_eventRequest hr)
      | ok request =>
          rcases handleCreate_cases fresh request s with ⟨_, h, hf⟩ | ⟨e, he, ha, h⟩
          · exact .of_eq h (.unchanged hf)
          · exact .of_eq h (.created hm rfl he ha)
  | get | head | put | delete | other _ =>
      cases ListFilter.ofQuery? r.query with
      | none => exact .unchanged (isFaultless_plain (show 400 < 500 by decide))
      | some filter =>
          obtain ⟨_, h, hf⟩ := handleList_cases filter s
          exact .of_eq h (.unchanged hf)

theorem answered_respondEvent (id : String) :
    Answered fresh r s ((MemoryStore.service storage apiPrefix).respondEvent id r s) := by
  rw [Api.respondEvent]
  cases hm : r.method with
  | put =>
      cases hr : r.eventRequest with
      | error response => exact .unchanged (isFaultless_of_eventRequest hr)
      | ok request =>
          rcases handleUpdate_cases id request s with ⟨_, h, hf⟩ | ⟨e, he, ⟨other, ho⟩, ha, h⟩
          · exact .of_eq h (.unchanged hf)
          · exact .of_eq h (.updated hm rfl he ho ha)
  | delete =>
      rcases handleDelete_cases id s with ⟨_, h, hf⟩ | h
      · exact .of_eq h (.unchanged hf)
      · exact .of_eq h (.deleted hm rfl)
  | get | head | post | other _ =>
      obtain ⟨_, h, hf⟩ := handleGet_cases id s
      exact .of_eq h (.unchanged hf)

theorem answered_respondInFull :
    Answered fresh r s ((MemoryStore.service storage apiPrefix).respondInFull fresh r s) := by
  rw [Api.respondInFull]
  cases Route.ofPath? (MemoryStore.service storage apiPrefix).apiPrefix r.path with
  | none => exact .unchanged (show (404 : Nat) < 500 by decide)
  | some route =>
      simp only
      split
      · exact .unchanged (show (405 : Nat) < 500 by decide)
      · cases route with
        | health => exact .unchanged (isFaultless_json (by decide))
        | description => exact .unchanged (isFaultless_json (by decide))
        | events => exact answered_respondEvents storage apiPrefix fresh r s
        | event segment =>
            dsimp only
            cases textOf? (Text.percentDecode (bytesOf segment)) with
            | none => exact .unchanged (isFaultless_plain (show 400 < 500 by decide))
            | some id => exact answered_respondEvent storage apiPrefix fresh r s id

/-- Leaving out the content of a response changes neither its status nor the store. -/
theorem Answered.withoutContent {fresh : String} {r : Request} {s : MemoryStore}
    {x : Response × MemoryStore} (h : Answered fresh r s x) :
    Answered fresh r s ({ x.1 with content := .empty }, x.2) := by
  cases h with
  | unchanged hf => exact .unchanged hf
  | created hm hs he ha => exact .created hm hs he ha
  | updated hm hs he ho ha => exact .updated hm hs he ho ha
  | deleted hm hs => exact .deleted hm hs

/-- Only three responses tell of a change of the store, and none of a fault of the service. -/
theorem Answered.outcome {fresh : String} {r : Request} {s : MemoryStore}
    {x : Response × MemoryStore} (h : Answered fresh r s x) :
    x.1.status < 500 ∧
      (x.2 = s ∨ (r.method = .post ∧ x.1.status = 201) ∨ (r.method = .put ∧ x.1.status = 200) ∨
        (r.method = .delete ∧ x.1.status = 204)) := by
  cases h with
  | unchanged hf => exact ⟨hf, .inl rfl⟩
  | created hm hs _ _ => exact ⟨by simp only; omega, .inr (.inl ⟨hm, hs⟩)⟩
  | updated hm hs _ _ _ => exact ⟨by simp only; omega, .inr (.inr (.inl ⟨hm, hs⟩))⟩
  | deleted hm hs => exact ⟨by simp only; omega, .inr (.inr (.inr ⟨hm, hs⟩))⟩

/-- **What one request does.**  Every response of the service is of one of the four kinds. -/
theorem answered_respond :
    Answered fresh r s ((MemoryStore.service storage apiPrefix).respond fresh r s) := by
  have h := answered_respondInFull storage apiPrefix fresh r s
  have hr : (MemoryStore.service storage apiPrefix).respond fresh r s =
      (if r.method = .head then
          { ((MemoryStore.service storage apiPrefix).respondInFull fresh r s).1 with
            content := .empty }
        else ((MemoryStore.service storage apiPrefix).respondInFull fresh r s).1,
        ((MemoryStore.service storage apiPrefix).respondInFull fresh r s).2) := rfl
  rw [hr]
  split
  · exact h.withoutContent
  · exact h

/-! ### Runs of the service -/

namespace MemoryStore

/-- The store after some requests in turn, each with the id that is generated if it needs one. -/
def served (storage apiPrefix : String) (s : MemoryStore)
    (requests : List (String × Request)) : MemoryStore :=
  requests.foldl (fun s x => ((service storage apiPrefix).respond x.1 x.2 s).2) s

/-- The store is well kept and holds admissible events only. -/
structure WellServed (s : MemoryStore) : Prop extends s.WellKept where
  admissible : ∀ {id e}, s.Stores id e → e.Admissible

namespace WellServed

variable {s : MemoryStore}

theorem empty : MemoryStore.empty.WellServed where
  toWellKept := .empty
  admissible h := absurd h not_stores_empty

theorem put (hs : s.WellServed) {e : Event} (hid : e.id ≠ "") (ha : s.Admits e)
    (he : e.Admissible) : (s.put e).WellServed where
  toWellKept := hs.toWellKept.put hid ha
  admissible h := by
    rcases stores_put.mp h with ⟨rfl, rfl⟩ | ⟨_, h⟩
    · exact he
    · exact hs.admissible h

theorem remove (hs : s.WellServed) (id : String) : (s.remove id).WellServed where
  toWellKept := hs.toWellKept.remove id
  admissible h := hs.admissible (stores_remove.mp h).2

/-- A request keeps a store well served. -/
theorem answered (hs : s.WellServed) {fresh : String} {r : Request} {x : Response × MemoryStore}
    (hf : fresh ≠ "") (h : Answered fresh r s x) : x.2.WellServed := by
  cases h with
  | unchanged _ => exact hs
  | created _ _ he ha =>
      exact hs.put (Event.identified_id_ne hf _) ha
        ((EventRequest.admissible_of_toEvent he).identified fresh)
  | updated _ _ he ho ha =>
      have hid := EventRequest.id_of_toEvent he
      exact hs.put (hid ▸ hs.named ho) ha (EventRequest.admissible_of_toEvent he)
  | deleted _ _ => exact hs.remove _

theorem served (hs : s.WellServed) (storage apiPrefix : String)
    {requests : List (String × Request)} (h : ∀ x ∈ requests, x.1 ≠ "") :
    (s.served storage apiPrefix requests).WellServed := by
  induction requests generalizing s with
  | nil => exact hs
  | cons x requests ih =>
      exact ih (hs.answered (h x List.mem_cons_self) (answered_respond storage apiPrefix x.1 x.2 s))
        fun y hy => h y (List.mem_cons_of_mem _ hy)

end WellServed

/-- **Requests keep all events admissible.**  After any requests to the service over the empty
store, every stored event has its own id, which is not empty, names an owner and a title, starts
before it ends, has texts of bounded sizes and times of whole seconds, and overlaps no other event
of its owner.  Whatever request comes next, the response reports no fault of the service, and the
store is as it was unless the response is 201 to a `POST`, 200 to a `PUT` or 204 to a `DELETE`. -/
theorem requests_keep_events_admissible (storage : String) (requests : List (String × Request))
    (h : ∀ x ∈ requests, x.1 ≠ "") :
    (∀ id e, (empty.served storage "" requests).Stores id e →
        e.id = id ∧ e.id ≠ "" ∧ e.validate = .ok () ∧
          Text.isBlank e.userId = false ∧ Text.isBlank e.title = false ∧
          e.startTime < e.endTime ∧ e.userId.utf8ByteSize ≤ 256 ∧ e.title.utf8ByteSize ≤ 1024 ∧
          e.description.utf8ByteSize ≤ 10240 ∧ e.startTime.nanosecond = 0 ∧
          e.endTime.nanosecond = 0) ∧
      (∀ id id' e e', (empty.served storage "" requests).Stores id e →
        (empty.served storage "" requests).Stores id' e' → e.id ≠ e'.id → e.userId = e'.userId →
        e.overlaps e' = false) ∧
      ∀ fresh r, ∃ response s',
        (service storage "").respond fresh r (empty.served storage "" requests) = (response, s') ∧
          response.status < 500 ∧
          (s' = empty.served storage "" requests ∨
            (r.method = .post ∧ response.status = 201) ∨
            (r.method = .put ∧ response.status = 200) ∨
            (r.method = .delete ∧ response.status = 204)) := by
  have hs := WellServed.empty.served storage "" h
  refine ⟨fun id e he => ?_, fun id id' e e' he he' hne hu => ?_, fun fresh r => ?_⟩
  · have ha := hs.admissible he
    obtain ⟨hu, ht, hi⟩ := Event.validate_eq_ok.mp ha.validated
    refine ⟨hs.keyed he, ?_, ha.validated, hu, ht, hi, ha.userId_le, ha.title_le,
      ha.description_le, ha.startTime_whole, ha.endTime_whole⟩
    rw [hs.keyed he]
    exact hs.named he
  · rw [hs.keyed he, hs.keyed he'] at hne
    exact hs.apart he he' hne hu
  · exact ⟨_, _, rfl, (answered_respond storage "" fresh r _).outcome⟩

/-- Two events of one user at adjoining times, an overlap that is refused, a change that is not, a
content that breaks off, and a removal. -/
def sampleRequests : List (String × Request) :=
  let body (first last : Int64) : Bytes :=
    EventRequest.encode ⟨"u1", "Meeting", none, first, last, none⟩
  [("a", ⟨.post, "/v1/events", "", some "application/json", body 0 3600⟩),
    ("b", ⟨.post, "/v1/events", "", some "application/json", body 3600 7200⟩),
    ("c", ⟨.put, "/v1/events/b", "", some "application/json", body 1800 7200⟩),
    ("d", ⟨.put, "/v1/events/b", "", some "application/json", body 7200 9000⟩),
    ("e", ⟨.post, "/v1/events", "", some "application/json", (body 0 1).take 9⟩),
    ("f", ⟨.delete, "/v1/events/a", "", none, []⟩)]

theorem sampleRequests_keep_events_admissible :
    (∀ x ∈ sampleRequests, x.1 ≠ "") ∧
      (∀ id e, (empty.served "memory" "" sampleRequests).Stores id e →
        e.id = id ∧ e.id ≠ "" ∧ e.validate = .ok () ∧
          Text.isBlank e.userId = false ∧ Text.isBlank e.title = false ∧
          e.startTime < e.endTime ∧ e.userId.utf8ByteSize ≤ 256 ∧ e.title.utf8ByteSize ≤ 1024 ∧
          e.description.utf8ByteSize ≤ 10240 ∧ e.startTime.nanosecond = 0 ∧
          e.endTime.nanosecond = 0) ∧
      (∀ id id' e e', (empty.served "memory" "" sampleRequests).Stores id e →
        (empty.served "memory" "" sampleRequests).Stores id' e' → e.id ≠ e'.id →
        e.userId = e'.userId → e.overlaps e' = false) ∧
      ∀ fresh r, ∃ response s',
        (service "memory" "").respond fresh r (empty.served "memory" "" sampleRequests) =
            (response, s') ∧
          response.status < 500 ∧
          (s' = empty.served "memory" "" sampleRequests ∨
            (r.method = .post ∧ response.status = 201) ∨
            (r.method = .put ∧ response.status = 200) ∨
            (r.method = .delete ∧ response.status = 204)) := by
  have h : ∀ x ∈ sampleRequests, x.1 ≠ "" := by simp [sampleRequests]
  exact ⟨h, requests_keep_events_admissible "memory" sampleRequests h⟩

end MemoryStore

end Reminders
