import Reminders.Proofs.Api.Resource

/-!
# Api — reading what was written

Whatever requests came before, a client gets back what it wrote: the event that a `POST` has added
shows what was asked for until someone replaces or removes it, what a `GET` returns can be sent back
by a `PUT` without an effect, and a `PUT` that is repeated changes nothing more.  Sending back is
possible because no stored event excludes another one, and because the seconds of all times that an
event can have are read as they are written.

* `WellKept.admits_of_stores`: a stored event may be put where it is.
* `stores_served`: what later requests leave alone.
* `reads_what_is_written`: the three together.
-/

namespace Reminders.MemoryStore

variable {s : MemoryStore} {e : Event} {id : String}

/-! ### Putting an event where it is -/

theorem put_of_stores (h : s.Stores e.id e) : s.put e = s := by
  refine ext_stores fun id e' => stores_put.trans ⟨?_, fun he' => ?_⟩
  · rintro (⟨rfl, rfl⟩ | ⟨_, he'⟩)
    · exact h
    · exact he'
  · by_cases hid : id = e.id
    · subst hid
      exact .inl ⟨rfl, he'.unique h⟩
    · exact .inr ⟨hid, he'⟩

/-- An event does not exclude itself. -/
theorem Admits.put (h : s.Admits e) : (s.put e).Admits e := by
  intro id other ho
  rcases stores_put.mp ho with ⟨_, rfl⟩ | ⟨_, ho⟩
  · exact Event.conflictsWith_eq_false_iff.mpr fun _ hne => absurd rfl hne
  · exact h id other ho

/-- No stored event excludes another one. -/
theorem WellKept.admits_of_stores (hs : s.WellKept) (h : s.Stores id e) : s.Admits e := by
  intro id' other ho
  refine Event.conflictsWith_eq_false_iff.mpr fun huser hne => ?_
  refine hs.apart h ho ?_ huser.symm
  rintro rfl
  exact hne (by rw [hs.keyed h, hs.keyed ho])

/-! ### Stores that requests lead to -/

/-- What is known of a generated id: it is not empty, and no longer than a UUID. -/
def IsGenerated (id : String) : Prop :=
  id ≠ "" ∧ id.utf8ByteSize ≤ 36

instance (id : String) : Decidable (IsGenerated id) :=
  inferInstanceAs (Decidable (_ ∧ _))

/-- Some requests to the service over the empty store lead to this one. -/
def Attained (storage apiPrefix : String) (s : MemoryStore) : Prop :=
  ∃ requests : List (String × Request), (∀ x ∈ requests, IsGenerated x.1) ∧
    empty.served storage apiPrefix requests = s

section Served

variable {storage apiPrefix fresh : String} {r : Request}

/-- All ids of stored events were generated. -/
theorem isGenerated_of_respond (hs : ∀ id e, s.Stores id e → IsGenerated id)
    (hf : IsGenerated fresh)
    (h : ((service storage apiPrefix).respond fresh r s).2.Stores id e) : IsGenerated id := by
  have houtcome := outcome_respond storage apiPrefix fresh r s
  generalize (service storage apiPrefix).respond fresh r s = x at h houtcome
  cases houtcome with
  | unwritten _ => exact hs id e h
  | added _ _ he _ =>
      rcases stores_put.mp h with ⟨rfl, _⟩ | ⟨_, h⟩
      · rwa [EventRequest.id_of_toEvent he]
      · exact hs id e h
  | replaced _ _ _ he ho _ =>
      rcases stores_put.mp h with ⟨rfl, _⟩ | ⟨_, h⟩
      · rw [EventRequest.id_of_toEvent he]
        exact hs _ _ ho
      · exact hs id e h
  | removed _ _ => exact hs id e (stores_remove.mp h).2

theorem isGenerated_of_served {requests : List (String × Request)}
    (hs : ∀ id e, s.Stores id e → IsGenerated id) (hf : ∀ x ∈ requests, IsGenerated x.1)
    (h : (s.served storage apiPrefix requests).Stores id e) : IsGenerated id := by
  induction requests generalizing s with
  | nil => exact hs id e h
  | cons x requests ih =>
      exact ih (fun _ _ => isGenerated_of_respond hs (hf x List.mem_cons_self))
        (fun y hy => hf y (List.mem_cons_of_mem _ hy)) h

theorem Attained.wellServed (h : s.Attained storage apiPrefix) : s.WellServed := by
  obtain ⟨requests, hf, rfl⟩ := h
  exact WellServed.empty.served storage apiPrefix fun x hx => (hf x hx).1

theorem Attained.isGenerated (h : s.Attained storage apiPrefix) (he : s.Stores id e) :
    IsGenerated id := by
  obtain ⟨requests, hf, rfl⟩ := h
  exact isGenerated_of_served (fun _ _ h => absurd h not_stores_empty) hf he

/-- None of the requests, in their turn, replaces or removes the event with this id. -/
def Spares (storage apiPrefix id : String) : MemoryStore → List (String × Request) → Prop
  | _, [] => True
  | s, x :: requests => ¬ x.2.Overwrites storage apiPrefix x.1 s id ∧
    Spares storage apiPrefix id ((service storage apiPrefix).respond x.1 x.2 s).2 requests

/-- An event stays as it is until a request replaces or removes it. -/
theorem stores_served {requests : List (String × Request)} (he : s.Stores id e)
    (h : Spares storage apiPrefix id s requests) :
    (s.served storage apiPrefix requests).Stores id e := by
  induction requests generalizing s with
  | nil => exact he
  | cons x requests ih => exact ih (stores_respond he h.1) h.2

/-! ### Sending back what was read -/

/-- The content of a request that sends back the view of an event. -/
theorem eventRequest_of_view (hs : s.Attained storage apiPrefix) (he : s.Stores id e)
    (hjson : r.contentType.any MediaType.isJson = true)
    (hbody : r.body = (EventResponse.ofEvent e).encode) :
    r.eventRequest = .ok (EventResponse.ofEvent e).request := by
  have hid : e.id.utf8ByteSize ≤ 36 := by
    rw [hs.wellServed.keyed he]
    exact (hs.isGenerated he).2
  have hsize := EventResponse.length_encode_le (hs.wellServed.admissible he) hid
  rw [Request.eventRequest, hjson, hbody, if_neg (by decide), if_neg (by omega),
    EventResponse.front_encode]

end Served

/-- **Reading what was written.**  Let any requests to the service have led from the empty store to
this one.

If a `POST` is answered by 201, it was the request for an event, and the response reads back as its
id with the event as it was asked for; and after any later requests of which none replaces or
removes this event, a `GET` of it returns just that.

What a `GET` of an event returns can be sent back by a `PUT`, which is answered by the same and
leaves the store as it is.

If a `PUT` is answered by 200, then repeating it is answered by the same and leaves the store as it
is. -/
theorem reads_what_is_written {storage apiPrefix : String} {s : MemoryStore}
    (hs : s.Attained storage apiPrefix) :
    (∀ fresh r response s', r.method = .post →
      (service storage apiPrefix).respond fresh r s = (response, s') → response.status = 201 →
        ∃ request, r.eventRequest = .ok request ∧
          response = .json 201 (CreatedEvent.encode ⟨fresh, request.view fresh⟩) ∧
          CreatedEvent.decode (CreatedEvent.encode ⟨fresh, request.view fresh⟩) =
            .ok ⟨fresh, request.view fresh⟩ ∧
          EventResponse.decode (request.view fresh).encode = .ok (request.view fresh) ∧
          ∀ later, Spares storage apiPrefix fresh s' later →
            ∀ fresh' g, g.method = .get → g.Addresses apiPrefix fresh →
              (service storage apiPrefix).respond fresh' g (s'.served storage apiPrefix later) =
                (.json 200 (request.view fresh).encode, s'.served storage apiPrefix later)) ∧
    (∀ fresh g id body, g.method = .get → g.Addresses apiPrefix id →
      ((service storage apiPrefix).respond fresh g s).1 = .json 200 body →
        ∀ fresh' r, r.method = .put → r.Addresses apiPrefix id →
          r.contentType.any MediaType.isJson = true → r.body = body →
            (service storage apiPrefix).respond fresh' r s = (.json 200 body, s)) ∧
    ∀ fresh fresh' r response s', r.method = .put →
      (service storage apiPrefix).respond fresh r s = (response, s') → response.status = 200 →
        (service storage apiPrefix).respond fresh' r s' = (response, s') := by
  refine ⟨fun fresh r response s' hm hrespond hstatus => ?_,
    fun fresh g id body hget hg hbody fresh' r hput hr hjson hsent => ?_,
    fun fresh fresh' r response s' hm hrespond hstatus => ?_⟩
  · have houtcome := outcome_respond storage apiPrefix fresh r s
    rw [hrespond] at houtcome
    cases houtcome with
    | unwritten h => exact absurd (h (.inl hm)) (by rw [hstatus]; decide)
    | @added request e _ hrequest he _ =>
        refine ⟨request, hrequest, rfl, CreatedEvent.decode_encode _,
          (request.view fresh).decode_encode, fun later hlater fresh' g hget hg => ?_⟩
        have hstored : (s.put e).Stores fresh e :=
          stores_put.mpr (.inl ⟨(EventRequest.id_of_toEvent he).symm, rfl⟩)
        rw [respond_get hget hg (stores_served hstored hlater), EventRequest.ofEvent_of_toEvent he]
    | replaced h => exact absurd (hm.symm.trans h) nofun
    | removed h => exact absurd (hm.symm.trans h) nofun
  · obtain ⟨e, he, rfl⟩ := stores_of_respond_get hget hg hbody
    have hrequest := eventRequest_of_view hs he hjson hsent
    have hid := hs.wellServed.keyed he
    have htoEvent := EventResponse.toEvent_request (hs.wellServed.admissible he)
    rw [hid] at htoEvent
    rw [respond_put hput hr hrequest htoEvent he (hs.wellServed.admits_of_stores he),
      ← EventRequest.ofEvent_of_toEvent htoEvent, put_of_stores (hid.symm ▸ he)]
  · have houtcome := outcome_respond storage apiPrefix fresh r s
    rw [hrespond] at houtcome
    cases houtcome with
    | unwritten h => exact absurd (h (.inr (.inl hm))) (by rw [hstatus]; decide)
    | added h => exact absurd (hm.symm.trans h) nofun
    | @replaced id request e other _ hr hrequest he ho ha =>
        have hstored : (s.put e).Stores e.id e := stores_put.mpr (.inl ⟨rfl, rfl⟩)
        rw [respond_put hm hr hrequest he (EventRequest.id_of_toEvent he ▸ hstored) ha.put,
          put_of_stores hstored]
    | removed h => exact absurd (hm.symm.trans h) nofun

/-- A request for a lunch. -/
def lunch : EventRequest :=
  ⟨"u1", "Lunch", none, 43200, 46800, none⟩

/-- A request with content. -/
def sending (method : Method) (path : String) (body : Bytes) : Request :=
  ⟨method, path, "", some "application/json", body⟩

/-- The request for the first event. -/
def getFirst : Request :=
  ⟨.get, "/v1/events/a", "", none, []⟩

/-- The request to move the first event to a later time. -/
def moveFirst : Request :=
  sending .put "/v1/events/a" { lunch with startTime := 46800, endTime := 50400 }.encode

/-- A store with the lunch. -/
def lunchStore : MemoryStore :=
  empty.served "memory" "" [("a", sending .post "/v1/events" lunch.encode)]

/-- A later request for an event that ends when the lunch begins. -/
def laterRequests : List (String × Request) :=
  [("b", sending .post "/v1/events" { lunch with startTime := 39600, endTime := 43200 }.encode)]

/-- The lunch is read after another event was added; it is sent back; it is moved twice to the same
time. -/
theorem lunch_reads_back :
    lunchStore.Attained "memory" "" ∧
      (service "memory" "").respond "c" getFirst (lunchStore.served "memory" "" laterRequests) =
        (.json 200 (lunch.view "a").encode, lunchStore.served "memory" "" laterRequests) ∧
      (service "memory" "").respond "b"
          (sending .put "/v1/events/a" (lunch.view "a").encode) lunchStore =
        (.json 200 (lunch.view "a").encode, lunchStore) ∧
      (service "memory" "").respond "c" moveFirst
          ((service "memory" "").respond "b" moveFirst lunchStore).2 =
        (service "memory" "").respond "b" moveFirst lunchStore := by
  have hempty : empty.Attained "memory" "" := ⟨[], nofun, rfl⟩
  have hlunch : lunchStore.Attained "memory" "" :=
    ⟨_, List.forall_mem_singleton.mpr (by decide), rfl⟩
  have hgetFirst : getFirst.Addresses "" "a" :=
    Request.addresses_of_path (by decide) (by decide) (by decide) (by decide)
  obtain ⟨hcreated, _, _⟩ := reads_what_is_written hempty
  obtain ⟨_, hsent, hrepeated⟩ := reads_what_is_written hlunch
  refine ⟨hlunch, ?_, ?_, ?_⟩
  · have hstatus : ((service "memory" "").respond "a" (sending .post "/v1/events" lunch.encode)
        empty).1.status = 201 := by decide +kernel
    have hlunch : (sending .post "/v1/events" lunch.encode).eventRequest = .ok lunch := by
      decide +kernel
    obtain ⟨request, hrequest, _, _, _, hlater⟩ := hcreated "a" _ _ _ rfl Prod.mk.eta.symm hstatus
    obtain rfl : lunch = request := Except.ok.inj (hlunch.symm.trans hrequest)
    have hspared : Spares "memory" "" "a" lunchStore laterRequests := by
      refine ⟨?_, trivial⟩
      rintro ⟨_, ⟨hm, _⟩ | ⟨hm, _⟩⟩ <;> cases hm
    exact hlater laterRequests hspared "c" getFirst rfl hgetFirst
  · have hgot : ((service "memory" "").respond "b" getFirst lunchStore).1 =
        .json 200 (lunch.view "a").encode := by decide +kernel
    have haddresses : (sending .put "/v1/events/a" (lunch.view "a").encode).Addresses "" "a" :=
      Request.addresses_of_path rfl (by decide) (by decide) (by decide)
    exact hsent "b" getFirst "a" _ rfl hgetFirst hgot "b" _ rfl haddresses rfl rfl
  · have hmoved : ((service "memory" "").respond "b" moveFirst lunchStore).1.status = 200 := by
      decide +kernel
    exact (hrepeated "b" "c" moveFirst _ _ rfl Prod.mk.eta.symm hmoved).trans Prod.mk.eta

end Reminders.MemoryStore
