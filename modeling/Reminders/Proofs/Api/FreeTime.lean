import Reminders.Proofs.Api.Query
import Reminders.Proofs.Api.Resource
import Reminders.Proofs.Json.Record
import Reminders.Proofs.Store.Outcome

/-!
# Api — looking for free time

A client that wants to book some time can ask first what its user has there.  The listing of a range
and the check for overlaps are two tests of intervals, but they agree: nothing is listed exactly if
the time can be booked, and nothing but one event exactly if this event can be moved there.

* `WellKept.create_ok_iff`, `WellKept.update_ok_iff`: the store.
* `respond_of_asksFor`, `respond_of_books`: the two requests.
* `listings_show_free_time`: both together.
-/

namespace Reminders

theorem Event.identified_eq (fresh : String) (e : Event) :
    e.identified fresh = { e with id := (e.identified fresh).id } := by
  rw [identified]
  split <;> rfl

namespace MemoryStore

variable {s : MemoryStore} {e : Event}

/-- The events that a user has in a range of time. -/
def between (s : MemoryStore) (userId : String) (first last : Instant) : List Event :=
  s.collect fun e => e.userId == userId && e.intersectsRange first last

theorem mem_between {other : Event} {userId : String} {first last : Instant} :
    other ∈ s.between userId first last ↔
      (∃ id, s.Stores id other) ∧ other.userId = userId ∧
        first < other.endTime ∧ other.startTime < last := by
  rw [between, mem_collect, Bool.and_eq_true, beq_iff_eq, Event.intersectsRange_iff]

/-- An event clashes with what its user has in its time. -/
theorem WellKept.clashes_iff (hs : s.WellKept) {id : String} :
    s.Clashes e id ↔ ∃ other ∈ s.between e.userId e.startTime e.endTime, other.id = id := by
  constructor
  · rintro ⟨other, ho, hshared⟩
    exact ⟨other, mem_between.mpr ⟨⟨id, ho⟩, hshared⟩, hs.keyed ho⟩
  · rintro ⟨other, hother, rfl⟩
    obtain ⟨⟨id, ho⟩, hshared⟩ := mem_between.mp hother
    obtain rfl := hs.keyed ho
    exact ⟨other, ho, hshared⟩

/-- An event with a free id can be added exactly if its user has nothing in its time. -/
theorem WellKept.create_ok_iff (hs : s.WellKept) {fresh : String}
    (hfree : ∀ other, ¬ s.Stores (e.identified fresh).id other) :
    (∃ id, (s.create fresh e).1 = .ok id) ↔ s.between e.userId e.startTime e.endTime = [] := by
  have hwrites := (createAmong_ends (.refl _) fresh e).writes hs fun _ _ h => by cases h
  have hsame : s.between (e.identified fresh).userId (e.identified fresh).startTime
      (e.identified fresh).endTime = s.between e.userId e.startTime e.endTime := by
    rw [Event.identified_eq]
  rw [create, hwrites.ok_iff, and_iff_right hfree, ← hsame, List.eq_nil_iff_forall_not_mem]
  constructor
  · intro hclash other hother
    obtain ⟨⟨id, ho⟩, _⟩ := mem_between.mp hother
    obtain rfl := hs.keyed ho
    refine hclash other.id ?_ (hs.clashes_iff.mpr ⟨other, hother, rfl⟩)
    intro hid
    exact hfree other (hid ▸ ho)
  · intro hnone id _ hclash
    obtain ⟨other, hother, _⟩ := hs.clashes_iff.mp hclash
    exact hnone other hother

/-- An event can be replaced exactly if its user has nothing but this event in its time. -/
theorem WellKept.update_ok_iff (hs : s.WellKept) {other : Event} (ho : s.Stores e.id other) :
    (s.update e).1 = .ok () ↔ ∀ e' ∈ s.between e.userId e.startTime e.endTime, e' = other := by
  have hwrites := (updateAmong_ends (.refl _) e).writes hs fun _ _ h => by cases h
  have hok : (s.update e).1 = .ok () ↔ ∃ a, (s.update e).1 = .ok a :=
    ⟨fun h => ⟨(), h⟩, fun ⟨(), h⟩ => h⟩
  rw [hok, update, hwrites.ok_iff, and_iff_right ⟨other, ho⟩]
  constructor
  · intro hclash e' he'
    obtain ⟨⟨id, hstored⟩, _⟩ := mem_between.mp he'
    obtain rfl := hs.keyed hstored
    by_cases hid : e'.id = e.id
    · rw [hid] at hstored
      exact hstored.unique ho
    · exact absurd (hs.clashes_iff.mpr ⟨e', he', rfl⟩) (hclash e'.id hid)
  · intro hsole id hid hclash
    obtain ⟨e', he', rfl⟩ := hs.clashes_iff.mp hclash
    exact hid (hsole e' he' ▸ hs.keyed ho)

end MemoryStore

/-! ### The two requests -/

/-- A written listing is empty only if nothing is listed. -/
theorem encodeListing_eq_iff {es : List Event} :
    encodeListing es = encodeListing [] ↔ es = [] := by
  refine ⟨fun h => ?_, fun h => by rw [h]⟩
  have hmember : ∀ values values' : List Bytes,
      Json.writeObject [("data", Json.writeArray values)] =
        Json.writeObject [("data", Json.writeArray values')] →
      Json.writeSeparated values = Json.writeSeparated values' := fun values values' h => by
    simpa [Json.writeObject, Json.writeArray, Json.writeMember, Json.writeSeparated] using h
  cases es with
  | nil => rfl
  | cons e es =>
      -- The first event listed is written as an object, which is not empty.
      have hnil := hmember _ _ h
      rw [List.map_cons, Json.Record.writeSeparated_cons, List.map_nil, Json.writeSeparated] at hnil
      exact absurd (List.append_eq_nil_iff.mp hnil).1 (List.cons_ne_nil _ _)

/-- The request asks for the events of a user in a range of Unix seconds. -/
structure Request.AsksFor (apiPrefix : String) (r : Request) (userId : String)
    (first last : Int64) : Prop where
  method : r.method = .get
  path : r.path = apiPrefix ++ "/v1/events"
  query : ListFilter.ofQuery? r.query = some ⟨some userId, some first, some last⟩

/-- The request asks to add an event of a user in a range of Unix seconds, which is valid. -/
structure Request.Books (apiPrefix : String) (r : Request) (userId : String)
    (first last : Int64) : Prop where
  method : r.method = .post
  path : r.path = apiPrefix ++ "/v1/events"
  valid : ∃ request e, r.eventRequest = .ok request ∧ request.userId = userId ∧
    request.startTime = first ∧ request.endTime = last ∧ request.toEvent "" = .ok e

section Respond

variable {storage apiPrefix fresh userId : String} {r : Request} {s : MemoryStore}
  {first last : Int64}

/-- The events that a user has in a range are listed. -/
theorem respond_of_asksFor (h : r.AsksFor apiPrefix userId first last) {start finish : Instant}
    (hfirst : EventRequest.instant first = .ok start)
    (hlast : EventRequest.instant last = .ok finish) (hle : ¬ finish < start) :
    (MemoryStore.service storage apiPrefix).respond fresh r s =
      (.json 200 (encodeListing (s.between userId start finish)), s) := by
  have hselection : (ListFilter.mk (some userId) (some first) (some last)).selection =
      .ok (.ofUserInRange userId start finish) := by
    simp only [ListFilter.selection, ListFilter.rangeEnd, hfirst, hlast]
    exact if_neg hle
  have hpath : Route.ofPath? apiPrefix r.path = some .events :=
    h.path ▸ Route.ofPath?_events apiPrefix
  rw [service_of_reaches (.list hpath (.inl h.method) h.query) (by rw [h.method]; nofun),
    EventTask.handle, EventStore.handleList, hselection]
  rfl

/-- A valid event is added, or refused for an overlap. -/
theorem respond_of_books (hs : s.WellKept) {request : EventRequest} {e : Event}
    (hm : r.method = .post) (hpath : r.path = apiPrefix ++ "/v1/events")
    (hrequest : r.eventRequest = .ok request) (he : request.toEvent "" = .ok e)
    (hfree : ∀ other, ¬ s.Stores fresh other) :
    ((MemoryStore.service storage apiPrefix).respond fresh r s).1.status =
      if s.between e.userId e.startTime e.endTime = [] then 201 else 409 := by
  have hid : (e.identified fresh).id = fresh :=
    EventRequest.id_of_toEvent (EventRequest.toEvent_identified fresh he)
  rw [← hid] at hfree
  have hok := hs.create_ok_iff hfree
  have hpath : Route.ofPath? apiPrefix r.path = some .events :=
    hpath ▸ Route.ofPath?_events apiPrefix
  rw [service_of_reaches (.create hpath hm hrequest) (by rw [hm]; nofun), EventTask.handle,
    EventStore.handleCreate, he]
  simp only [bind, StateT.bind, show MemoryStore.store.create fresh e s = s.create fresh e from rfl]
  rcases s.create_cases fresh e with ⟨other, ho, _⟩ | ⟨_, _, _, _, h⟩ | ⟨_, _, h⟩
  · exact absurd ho (hfree other)
  · have hbusy : s.between e.userId e.startTime e.endTime ≠ [] := fun hnone => by
      obtain ⟨id, hid⟩ := hok.mpr hnone
      rw [h] at hid
      cases hid
    rw [if_neg hbusy, h]
    rfl
  · rw [if_pos (hok.mp ⟨_, by rw [h]⟩), h]
    rfl

end Respond

namespace MemoryStore

/-- **Listings show free time.**  Let a store be reachable.

What it lists for a user and a range is empty exactly if an event of this user over this range whose
id is free can be added; and it holds nothing but some stored event exactly if this event can be
replaced by one of this user over this range.

The service shows the same to its clients.  There is a query for every user and every range of whole
seconds; a `GET` with it shows an empty listing exactly if a valid `POST` for this user and this
range is answered by 201, and any other listing exactly if it is answered by 409. -/
theorem listings_show_free_time {s : MemoryStore} (hs : s.Reachable) :
    (∀ userId first last, ∃ es, store.listByUserInRange userId first last s = (.ok es, s) ∧
      (∀ fresh e, e.userId = userId → e.startTime = first → e.endTime = last →
        (∀ other, ¬ s.Stores (e.identified fresh).id other) →
          (es = [] ↔ ∃ id, (s.create fresh e).1 = .ok id)) ∧
      ∀ e other, s.Stores e.id other → e.userId = userId → e.startTime = first →
        e.endTime = last → ((s.update e).1 = .ok () ↔ ∀ e' ∈ es, e' = other)) ∧
    (∀ userId first last, ListFilter.ofQuery? (rangeQuery userId first last) =
      some ⟨some userId, some first, some last⟩) ∧
    ∀ storage apiPrefix fresh fresh' g p userId first last,
      g.AsksFor apiPrefix userId first last → p.Books apiPrefix userId first last →
      (∀ other, ¬ s.Stores fresh other) →
        ∃ body, ((service storage apiPrefix).respond fresh' g s).1 = .json 200 body ∧
          (body = encodeListing [] ↔
            ((service storage apiPrefix).respond fresh p s).1.status = 201) ∧
          (body ≠ encodeListing [] ↔
            ((service storage apiPrefix).respond fresh p s).1.status = 409) := by
  refine ⟨fun userId first last => ⟨s.between userId first last, rfl, ?_, ?_⟩,
    ofQuery?_rangeQuery, ?_⟩
  · rintro fresh e rfl rfl rfl hfree
    exact (hs.wellKept.create_ok_iff hfree).symm
  · rintro e other ho rfl rfl rfl
    exact hs.wellKept.update_ok_iff ho
  · rintro storage apiPrefix fresh fresh' g p _ _ _ hg
      ⟨hm, hpath, request, e, hrequest, rfl, rfl, rfl, he⟩ hfree
    obtain ⟨_, hfirst, hlast, _, hvalid, _, huser, _⟩ := EventRequest.toEvent_eq_ok.mp he
    have hlt := (Event.validate_eq_ok.mp hvalid).2.2
    refine ⟨encodeListing (s.between request.userId e.startTime e.endTime),
      by rw [respond_of_asksFor hg hfirst hlast (Int.lt_asymm hlt)], ?_⟩
    rw [respond_of_books hs.wellKept hm hpath hrequest he hfree, huser, ne_eq, encodeListing_eq_iff]
    split
    · next hnone => exact ⟨iff_of_true hnone rfl, iff_of_false (fun h => h hnone) (by decide)⟩
    · next hsome => exact ⟨iff_of_false hsome (by decide), iff_of_true hsome rfl⟩

/-- The request for what the first user has in a range. -/
def enquiry (first last : Int64) : Request :=
  ⟨.get, "/v1/events", rangeQuery "u1" first last, none, []⟩

/-- The request for an event of the first user over a range. -/
def booking (first last : Int64) : Request :=
  ⟨.post, "/v1/events", "", some "application/json",
    EventRequest.encode ⟨"u1", "Meeting", none, first, last, some 300⟩⟩

theorem asksFor_enquiry (first last : Int64) :
    (enquiry first last).AsksFor "" "u1" first last :=
  ⟨rfl, rfl, ofQuery?_rangeQuery "u1" first last⟩

/-- After the two hours there is free time, which can be booked; across them there is none.  The
second hour is all that stands in its own way. -/
theorem twoHours_show_free_time :
    twoHours.Reachable ∧ (booking 7200 9000).Books "" "u1" 7200 9000 ∧
      (booking 1800 5400).Books "" "u1" 1800 5400 ∧ (∀ other, ¬ twoHours.Stores "c" other) ∧
      ((service "memory" "").respond "" (enquiry 7200 9000) twoHours).1 =
        .json 200 (encodeListing []) ∧
      ((service "memory" "").respond "" (enquiry 1800 5400) twoHours).1 ≠
        .json 200 (encodeListing []) ∧
      (twoHours.update (sampleEvent "b" "u1" 3600 9000)).1 = .ok () := by
  have hfree : ∀ other, ¬ twoHours.Stores "c" other := fun other h => by
    rcases stores_twoHours_iff.mp h with ⟨hid, _⟩ | ⟨hid, _⟩ <;> exact absurd hid (by decide)
  have hlate : (booking 7200 9000).Books "" "u1" 7200 9000 :=
    ⟨rfl, rfl, ⟨"u1", "Meeting", none, 7200, 9000, some 300⟩, sampleEvent "" "u1" 7200 9000,
      by decide +kernel, rfl, rfl, rfl, by decide +kernel⟩
  have hacross : (booking 1800 5400).Books "" "u1" 1800 5400 :=
    ⟨rfl, rfl, ⟨"u1", "Meeting", none, 1800, 5400, some 300⟩, sampleEvent "" "u1" 1800 5400,
      by decide +kernel, rfl, rfl, rfl, by decide +kernel⟩
  have hbooked : ((service "memory" "").respond "c" (booking 7200 9000) twoHours).1.status =
      201 := by decide +kernel
  have hrefused : ((service "memory" "").respond "c" (booking 1800 5400) twoHours).1.status =
      409 := by decide +kernel
  obtain ⟨hlists, _, hserves⟩ := listings_show_free_time reachable_twoHours
  refine ⟨reachable_twoHours, hlate, hacross, hfree, ?_, ?_, ?_⟩
  · obtain ⟨body, hbody, hempty, _⟩ :=
      hserves "memory" "" "c" "" _ _ _ _ _ (asksFor_enquiry 7200 9000) hlate hfree
    rw [hbody, hempty.mpr hbooked]
  · obtain ⟨body, hbody, _, hsome⟩ :=
      hserves "memory" "" "c" "" _ _ _ _ _ (asksFor_enquiry 1800 5400) hacross hfree
    rw [hbody]
    exact fun h => hsome.mpr hrefused (Content.json.inj (congrArg Response.content h))
  · have hb : twoHours.Stores "b" (sampleEvent "b" "u1" 3600 7200) :=
      stores_twoHours_iff.mpr (.inr ⟨rfl, rfl⟩)
    obtain ⟨es, hes, _, hreplaced⟩ := hlists "u1" (sampleEvent "b" "u1" 3600 9000).startTime
      (sampleEvent "b" "u1" 3600 9000).endTime
    refine (hreplaced (sampleEvent "b" "u1" 3600 9000) _ hb rfl rfl rfl).mpr fun e he => ?_
    obtain rfl : _ = es := Except.ok.inj (congrArg Prod.fst hes)
    obtain ⟨⟨id, hstored⟩, _, hstart, _⟩ := mem_between.mp he
    rcases stores_twoHours_iff.mp hstored with ⟨_, rfl⟩ | ⟨_, rfl⟩
    · exact absurd hstart (by decide)
    · rfl

end MemoryStore

end Reminders
