import Reminders.Api.Event
import Reminders.Proofs.Monad
import Reminders.Store.Basic

/-!
# Api — what a request turns into

* `toEvent_eq_ok`: the requests that become an event, and the event that they become.
* `admissible_of_toEvent`: such an event obeys all rules of the service.
-/

namespace Reminders

/-- The event obeys the rules of the service: those of every stored event, the greatest sizes of its
texts, and times of whole seconds. -/
structure Event.Admissible (e : Event) : Prop where
  validated : e.validate = .ok ()
  userId_le : e.userId.utf8ByteSize ≤ 256
  title_le : e.title.utf8ByteSize ≤ 1024
  description_le : e.description.utf8ByteSize ≤ 10240
  startTime_whole : e.startTime.nanosecond = 0
  endTime_whole : e.endTime.nanosecond = 0

theorem Event.validate_eq_ok {e : Event} :
    e.validate = .ok () ↔
      Text.isBlank e.userId = false ∧ Text.isBlank e.title = false ∧ e.startTime < e.endTime := by
  rw [validate]
  repeat' split
  all_goals simp_all

/-- The rules say nothing about the id. -/
theorem Event.Admissible.identified {e : Event} (h : e.Admissible) (fresh : String) :
    (e.identified fresh).Admissible := by
  rw [Event.identified]
  split
  · exact { h with validated := h.validated }
  · exact h

/-- An instant at the start of a Unix second has no nanoseconds. -/
theorem Instant.nanosecond_of_ofUnix? {second : Int} {t : Instant}
    (h : Instant.ofUnix? second 0 = some t) : t.nanosecond = 0 := by
  rw [Instant.ofUnix?, if_pos (by omega), Instant.ofRank?] at h
  split at h
  · obtain rfl := Option.some.inj h
    show (second * 2000000000 + 0) % 2000000000 = 0
    omega
  · cases h

namespace EventRequest

/-! ### The checks -/

theorem checkSize_eq_ok {field : String} {limit : Nat} {s : String} :
    checkSize field limit s = .ok () ↔ s.utf8ByteSize ≤ limit := by
  rw [checkSize]
  split <;> simp_all

theorem checkSizes_eq_ok {userId title : String} {description : Option String} :
    checkSizes userId title description = .ok () ↔
      userId.utf8ByteSize ≤ maxUserId ∧ title.utf8ByteSize ≤ maxTitle ∧
        ∀ s ∈ description, s.utf8ByteSize ≤ maxDescription := by
  cases description <;> simp [checkSizes, then_eq_ok, checkSize_eq_ok]

theorem instant_eq_ok {seconds : Int64} {t : Instant} :
    instant seconds = .ok t ↔ Instant.ofUnix? seconds.toInt 0 = some t := by
  rw [instant]
  cases Instant.ofUnix? seconds.toInt 0 <;> simp

/-! ### The event -/

/-- **The event of a request.**  A request becomes an event exactly if its texts have admissible
sizes, its times and its seconds of notice can be represented, and the event obeys the rules of
every stored event. -/
theorem toEvent_eq_ok {r : EventRequest} {id : String} {e : Event} :
    r.toEvent id = .ok e ↔
      (r.userId.utf8ByteSize ≤ maxUserId ∧ r.title.utf8ByteSize ≤ maxTitle ∧
        ∀ s ∈ r.description, s.utf8ByteSize ≤ maxDescription) ∧
      instant r.startTime = .ok e.startTime ∧ instant r.endTime = .ok e.endTime ∧
      notice r.notifyBefore = .ok e.notifyBefore ∧ e.validate = .ok () ∧
      e.id = id ∧ e.userId = r.userId ∧ e.title = r.title ∧
      e.description = r.description.getD "" := by
  simp only [toEvent, bind_eq_ok, pure_eq_ok]
  constructor
  · rintro ⟨⟨⟩, hsizes, start, hstart, finish, hfinish, n, hn, ⟨⟩, hv, rfl⟩
    exact ⟨checkSizes_eq_ok.mp hsizes, hstart, hfinish, hn, hv, rfl, rfl, rfl, rfl⟩
  · obtain ⟨id', userId, title, description, start, finish, n⟩ := e
    rintro ⟨hsizes, hstart, hfinish, hn, hv, rfl, rfl, rfl, rfl⟩
    exact ⟨(), checkSizes_eq_ok.mpr hsizes, start, hstart, finish, hfinish, n, hn, (), hv, rfl⟩

theorem id_of_toEvent {r : EventRequest} {id : String} {e : Event} (h : r.toEvent id = .ok e) :
    e.id = id :=
  (toEvent_eq_ok.mp h).2.2.2.2.2.1

/-- The event of a request obeys the rules of the service. -/
theorem admissible_of_toEvent {r : EventRequest} {id : String} {e : Event}
    (h : r.toEvent id = .ok e) : e.Admissible := by
  obtain ⟨⟨hu, ht, hd⟩, hstart, hfinish, -, hv, -, eu, et, ed⟩ := toEvent_eq_ok.mp h
  refine ⟨hv, by rwa [eu], by rwa [et], ?_, ?_, ?_⟩
  · rw [ed]
    cases hr : r.description with
    | none => exact Nat.zero_le _
    | some s => exact hd s hr
  · exact Instant.nanosecond_of_ofUnix? (instant_eq_ok.mp hstart)
  · exact Instant.nanosecond_of_ofUnix? (instant_eq_ok.mp hfinish)

end EventRequest

end Reminders
