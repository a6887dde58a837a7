import Reminders.Api.Router

/-!
# Api — which handler a request reaches

The path of a request names an event by its id, or all events.  With its method, its query and its
content, it gives a handler its *task*.

* `addresses_of_path`, `ofPath?_events`: the paths of one event and of all events.
* `respond_of_reaches`: a request that reaches a handler gets the response of the handler.
-/

namespace Reminders

/-! ### Paths -/

/-- The path of the request is that of the event with this id. -/
def Request.Addresses (apiPrefix : String) (r : Request) (id : String) : Prop :=
  ∃ segment, Route.ofPath? apiPrefix r.path = some (.event segment) ∧
    textOf? (Text.percentDecode (bytesOf segment)) = some id

theorem Route.after?_append (front cs : List Char) : after? front (front ++ cs) = some cs := by
  induction front with
  | nil => rfl
  | cons c front ih => rw [List.cons_append, after?, if_pos rfl, ih]

/-- A path that starts like those of events is none of the paths that stand for themselves. -/
theorem Route.ne_of_append {apiPrefix path : String} {cs : List Char}
    (hpath : path.toList = (apiPrefix ++ "/v1/events").toList ++ cs) :
    path ≠ "/health" ∧ path ≠ "/api-doc/openapi.json" := by
  -- It holds the number of the version, and they do not.
  have hone : '1' ∈ path.toList := by
    simp [hpath]
  constructor <;> rintro rfl <;> exact absurd hone (by decide)

/-- An id in which nothing has a meaning in addresses can stand in a path as it is. -/
theorem Request.addresses_of_path {apiPrefix id : String} {r : Request}
    (hpath : r.path = apiPrefix ++ "/v1/events" ++ "/" ++ id) (hne : id.toList ≠ [])
    (hslash : '/' ∉ id.toList) (hpercent : 0x25 ∉ bytesOf id) : r.Addresses apiPrefix id := by
  have hchars : r.path.toList = (apiPrefix ++ "/v1/events").toList ++ '/' :: id.toList := by
    simp [hpath]
  obtain ⟨hhealth, hdescription⟩ := Route.ne_of_append hchars
  refine ⟨id, ?_, ?_⟩
  · rw [Route.ofPath?, if_neg hhealth, if_neg hdescription, hchars, Route.after?_append]
    simp [hne, hslash]
  · rw [Text.percentDecode_of_not_mem hpercent, textOf?_bytesOf]

/-- The path of all events. -/
theorem Route.ofPath?_events (apiPrefix : String) :
    ofPath? apiPrefix (apiPrefix ++ "/v1/events") = some .events := by
  obtain ⟨hhealth, hdescription⟩ := ne_of_append (List.append_nil _).symm
  have hafter := after?_append (apiPrefix ++ "/v1/events").toList []
  rw [List.append_nil] at hafter
  rw [ofPath?, if_neg hhealth, if_neg hdescription, hafter]

/-! ### Requests that reach a handler -/

variable {m : Type → Type} [Monad m]

/-- What a handler is given. -/
inductive EventTask where
  | create (fresh : String) (r : EventRequest)
  | list (filter : ListFilter)
  | get (id : String)
  | update (id : String) (r : EventRequest)
  | delete (id : String)

/-- The handler of a task. -/
def EventTask.handle (store : EventStore m) : EventTask → m Response
  | create fresh r => store.handleCreate fresh r
  | list filter => store.handleList filter
  | get id => store.handleGet id
  | update id r => store.handleUpdate id r
  | delete id => store.handleDelete id

/-- The path, the query and the content of the request are well typed, and it gives a handler its
task.  A request for the head of a resource reaches the handler of `GET`. -/
inductive Request.Reaches (apiPrefix fresh : String) (r : Request) : EventTask → Prop where
  | create {request : EventRequest} (hpath : Route.ofPath? apiPrefix r.path = some .events)
      (hm : r.method = .post) (hcontent : r.eventRequest = .ok request) :
      Reaches apiPrefix fresh r (.create fresh request)
  | list {filter : ListFilter} (hpath : Route.ofPath? apiPrefix r.path = some .events)
      (hm : r.method = .get ∨ r.method = .head)
      (hquery : ListFilter.ofQuery? r.query = some filter) :
      Reaches apiPrefix fresh r (.list filter)
  | get {id : String} (hpath : r.Addresses apiPrefix id) (hm : r.method = .get ∨ r.method = .head) :
      Reaches apiPrefix fresh r (.get id)
  | update {id : String} {request : EventRequest} (hpath : r.Addresses apiPrefix id)
      (hm : r.method = .put) (hcontent : r.eventRequest = .ok request) :
      Reaches apiPrefix fresh r (.update id request)
  | delete {id : String} (hpath : r.Addresses apiPrefix id) (hm : r.method = .delete) :
      Reaches apiPrefix fresh r (.delete id)

/-- The response as it is sent: without content to a request for a head. -/
def Request.shown (r : Request) (response : Response) : Response :=
  if r.method = .head then { response with content := .empty } else response

theorem Request.status_shown (r : Request) (response : Response) :
    (r.shown response).status = response.status := by
  rw [shown]
  split <;> rfl

section Respond

variable {api : Api m} {fresh : String} {r : Request} {task : EventTask}

theorem respondInFull_of_events (hpath : Route.ofPath? api.apiPrefix r.path = some .events)
    (hm : r.method ∈ Route.events.methods) :
    api.respondInFull fresh r = api.respondEvents fresh r := by
  have hallowed : Route.events.methods.contains r.method = true := List.contains_iff_mem.mpr hm
  simp only [Api.respondInFull, hpath, hallowed]
  rfl

theorem respondInFull_of_addresses {id : String} (hpath : r.Addresses api.apiPrefix id)
    (hm : ∀ segment, r.method ∈ (Route.event segment).methods) :
    api.respondInFull fresh r = api.respondEvent id r := by
  obtain ⟨segment, hroute, hid⟩ := hpath
  have hallowed : (Route.event segment).methods.contains r.method = true :=
    List.contains_iff_mem.mpr (hm segment)
  simp only [Api.respondInFull, hroute, hallowed, hid]
  rfl

/-- A request that reaches a handler gets the response of the handler. -/
theorem respond_of_reaches [LawfulMonad m] (h : r.Reaches api.apiPrefix fresh task) :
    api.respond fresh r = r.shown <$> task.handle api.store := by
  have hfull : api.respondInFull fresh r = task.handle api.store := by
    cases h with
    | create hpath hm hcontent =>
        rw [respondInFull_of_events hpath (by simp [hm, Route.methods]), Api.respondEvents]
        simp only [hm, hcontent]
        rfl
    | list hpath hm hquery =>
        rw [respondInFull_of_events hpath (by rcases hm with hm | hm <;> simp [hm, Route.methods]),
          Api.respondEvents]
        rcases hm with hm | hm <;>
        · simp only [hm, hquery]
          rfl
    | get hpath hm =>
        rw [respondInFull_of_addresses hpath
          (by rcases hm with hm | hm <;> simp [hm, Route.methods]), Api.respondEvent]
        rcases hm with hm | hm <;>
        · simp only [hm]
          rfl
    | update hpath hm hcontent =>
        rw [respondInFull_of_addresses hpath (by simp [hm, Route.methods]), Api.respondEvent]
        simp only [hm, hcontent]
        rfl
    | delete hpath hm =>
        rw [respondInFull_of_addresses hpath (by simp [hm, Route.methods]), Api.respondEvent]
        simp only [hm]
        rfl
  rw [Api.respond, hfull, map_eq_pure_bind]
  rfl

end Respond

end Reminders
