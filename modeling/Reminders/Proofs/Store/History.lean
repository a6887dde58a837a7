import Mathlib.Algebra.GroupWithZero.Nat
import Reminders.Proofs.Store.Memory

/-!
# Store — every history keeps the events of a user apart

A store is *reachable* if some operations, performed in turn on the empty store, lead to it; the
operations may be any, with any events, as long as no generated id is empty.  A store is *well kept*
if each event lies under its own id, no id is empty, and no two events of one user overlap.

* `after_cases`: all that one operation can do to a store.
* `WellKept.after`: an operation keeps a well-kept store well kept.
* `histories_keep_events_apart`: every reachable store is well kept, so no instant belongs to two
  events of one user.
-/

namespace Reminders

/-- An id that the operation has to make up is not empty. -/
def StoreOperation.MintsId : StoreOperation → Prop
  | .create fresh _ => fresh ≠ ""
  | _ => True

/-- The event that the operation would write. -/
def StoreOperation.candidate? : StoreOperation → Option Event
  | .create fresh e => some (e.identified fresh)
  | .update e => some e
  | _ => none

theorem Event.identified_id_ne {fresh : String} (h : fresh ≠ "") (e : Event) :
    (e.identified fresh).id ≠ "" := by
  rw [identified]
  split
  · exact h
  · next he => exact fun h' => he (by rw [h']; rfl)

namespace MemoryStore

/-- The store after an operation. -/
def after (s : MemoryStore) (op : StoreOperation) : MemoryStore :=
  (store.perform op s).2

/-- The store after some operations in turn. -/
def afterAll (s : MemoryStore) (ops : List StoreOperation) : MemoryStore :=
  ops.foldl after s

/-- Some operations lead from the empty store to this one. -/
def Reachable (s : MemoryStore) : Prop :=
  ∃ ops : List StoreOperation, (∀ op ∈ ops, op.MintsId) ∧ empty.afterAll ops = s

/-- **What an operation does to a store.**  It leaves the store alone, puts an admitted event into
it under a free id or under its own, removes one event, or removes those that ended before an
instant. -/
theorem after_cases (s : MemoryStore) (op : StoreOperation) :
    s.after op = s ∨
      (∃ fresh e, op = .create fresh e ∧ (∀ other, ¬ s.Stores (e.identified fresh).id other) ∧
        s.Admits (e.identified fresh) ∧ s.after op = s.put (e.identified fresh)) ∨
      (∃ e, op = .update e ∧ (∃ other, s.Stores e.id other) ∧ s.Admits e ∧
        s.after op = s.put e) ∨
      (∃ id, op = .delete id ∧ s.after op = s.remove id) ∨
      ∃ cutoff, op = .deleteOlderThan cutoff ∧ s.after op = s.purge cutoff := by
  cases op with
  | create fresh e =>
      have hs : s.after (.create fresh e) = (s.create fresh e).2 := rfl
      rcases s.create_cases fresh e with ⟨_, _, h⟩ | ⟨_, _, _, _, h⟩ | ⟨hfree, ha, h⟩
      · exact .inl (by rw [hs, h])
      · exact .inl (by rw [hs, h])
      · exact .inr (.inl ⟨fresh, e, rfl, hfree, ha, by rw [hs, h]⟩)
  | update e =>
      have hs : s.after (.update e) = (s.update e).2 := rfl
      rcases s.update_cases e with ⟨_, h⟩ | ⟨_, _, _, _, h⟩ | ⟨hheld, ha, h⟩
      · exact .inl (by rw [hs, h])
      · exact .inl (by rw [hs, h])
      · exact .inr (.inr (.inl ⟨e, rfl, hheld, ha, by rw [hs, h]⟩))
  | delete id =>
      have hs : s.after (.delete id) = (s.delete id).2 := rfl
      rcases s.delete_cases id with ⟨_, h⟩ | ⟨_, h⟩
      · exact .inl (by rw [hs, h])
      · exact .inr (.inr (.inr (.inl ⟨id, rfl, by rw [hs, h]⟩)))
  | deleteOlderThan cutoff => exact .inr (.inr (.inr (.inr ⟨cutoff, rfl, rfl⟩)))
  | get _ | list | listByUser _ | listByUserInRange _ _ _ | listDueBefore _ _ => exact .inl rfl

/-! ### Well-kept stores -/

/-- Each event lies under its own id, no id is empty, and no two events of one user overlap. -/
structure WellKept (s : MemoryStore) : Prop where
  keyed : ∀ {id e}, s.Stores id e → e.id = id
  named : ∀ {id e}, s.Stores id e → id ≠ ""
  apart : ∀ {id id' e e'}, s.Stores id e → s.Stores id' e' → id ≠ id' → e.userId = e'.userId →
    e.overlaps e' = false

namespace WellKept

variable {s : MemoryStore}

theorem empty : MemoryStore.empty.WellKept where
  keyed h := absurd h not_stores_empty
  named h := absurd h not_stores_empty
  apart h := absurd h not_stores_empty

/-- An admitted event overlaps no event of its owner that lies under another id. -/
theorem apart_of_admits (hs : s.WellKept) {e other : Event} {id : String} (ha : s.Admits e)
    (ho : s.Stores id other) (hid : id ≠ e.id) (hu : other.userId = e.userId) :
    e.overlaps other = false :=
  Event.conflictsWith_eq_false_iff.mp (ha id other ho) hu (by rw [hs.keyed ho]; exact hid)

/-- The owner and the interval of the event may both differ from those that the store held under its
id: what was there before takes no part. -/
theorem put (hs : s.WellKept) {e : Event} (hid : e.id ≠ "") (ha : s.Admits e) :
    (s.put e).WellKept where
  keyed h := by
    rcases stores_put.mp h with ⟨rfl, rfl⟩ | ⟨_, ho⟩
    · rfl
    · exact hs.keyed ho
  named h := by
    rcases stores_put.mp h with ⟨rfl, rfl⟩ | ⟨_, ho⟩
    · exact hid
    · exact hs.named ho
  apart h h' hne hu := by
    rcases stores_put.mp h with ⟨rfl, rfl⟩ | ⟨hi, ho⟩ <;>
      rcases stores_put.mp h' with ⟨rfl, rfl⟩ | ⟨hi', ho'⟩
    · exact absurd rfl hne
    · exact hs.apart_of_admits ha ho' hi' hu.symm
    · rw [Event.overlaps_comm]
      exact hs.apart_of_admits ha ho hi hu
    · exact hs.apart ho ho' hne hu

/-- A store that holds less stays well kept. -/
theorem of_sub (hs : s.WellKept) {s' : MemoryStore} (h : ∀ id e, s'.Stores id e → s.Stores id e) :
    s'.WellKept where
  keyed he := hs.keyed (h _ _ he)
  named he := hs.named (h _ _ he)
  apart he he' := hs.apart (h _ _ he) (h _ _ he')

theorem remove (hs : s.WellKept) (id : String) : (s.remove id).WellKept :=
  hs.of_sub fun _ _ h => (stores_remove.mp h).2

theorem purge (hs : s.WellKept) (cutoff : Instant) : (s.purge cutoff).WellKept :=
  hs.of_sub fun _ _ h => (stores_purge.mp h).1

/-- An operation keeps a well-kept store well kept. -/
theorem after (hs : s.WellKept) {op : StoreOperation} (hop : op.MintsId) :
    (s.after op).WellKept := by
  rcases s.after_cases op with h | ⟨fresh, e, rfl, _, ha, h⟩ | ⟨e, rfl, ⟨other, ho⟩, ha, h⟩ |
      ⟨id, rfl, h⟩ | ⟨cutoff, rfl, h⟩
  · rwa [h]
  · rw [h]
    exact hs.put (Event.identified_id_ne hop e) ha
  · rw [h]
    exact hs.put (hs.named ho) ha
  · rw [h]
    exact hs.remove id
  · rw [h]
    exact hs.purge cutoff

theorem afterAll (hs : s.WellKept) {ops : List StoreOperation} (h : ∀ op ∈ ops, op.MintsId) :
    (s.afterAll ops).WellKept := by
  induction ops generalizing s with
  | nil => exact hs
  | cons op ops ih =>
      exact ih (hs.after (h op List.mem_cons_self)) fun op' h' => h op' (List.mem_cons_of_mem _ h')

/-- Two events of one user that cover a common instant are the same event. -/
theorem eq_of_covers (hs : s.WellKept) {id id' : String} {e e' : Event} (h : s.Stores id e)
    (h' : s.Stores id' e') (hu : e.userId = e'.userId) {t : Instant} (ht : e.Covers t)
    (ht' : e'.Covers t) : e = e' := by
  by_cases hid : id = id'
  · subst hid
    exact h.unique h'
  · exact absurd ⟨ht, ht'⟩ (Event.not_covers_both (hs.apart h h' hid hu) t)

end WellKept

theorem Reachable.wellKept {s : MemoryStore} (h : s.Reachable) : s.WellKept := by
  obtain ⟨ops, hops, rfl⟩ := h
  exact WellKept.empty.afterAll hops

/-- **Every history keeps the events of a user apart.**  After any operations on the empty store,
every event lies under its own id, which is not empty, two events of one user under different ids do
not overlap, and an instant that two events of one user cover belongs to one event only. -/
theorem histories_keep_events_apart (ops : List StoreOperation) (h : ∀ op ∈ ops, op.MintsId) :
    (∀ id e, (empty.afterAll ops).Stores id e → e.id = id ∧ e.id ≠ "") ∧
      (∀ id id' e e', (empty.afterAll ops).Stores id e → (empty.afterAll ops).Stores id' e' →
        e.id ≠ e'.id → e.userId = e'.userId →
        intervalsOverlap e.startTime e.endTime e'.startTime e'.endTime = false) ∧
      ∀ id id' e e' t, (empty.afterAll ops).Stores id e → (empty.afterAll ops).Stores id' e' →
        e.userId = e'.userId → e.Covers t → e'.Covers t → e = e' := by
  have hs := WellKept.empty.afterAll h
  refine ⟨fun id e he => ⟨hs.keyed he, ?_⟩, fun id id' e e' he he' hne hu => ?_,
    fun id id' e e' t he he' hu ht ht' => hs.eq_of_covers he he' hu ht ht'⟩
  · rw [hs.keyed he]
    exact hs.named he
  · rw [hs.keyed he, hs.keyed he'] at hne
    exact hs.apart he he' hne hu

instance : NeZero 86400 := ⟨by decide⟩

/-- An event of the given user over some seconds of 1970. -/
def sampleEvent (id userId : String) (first last : Fin 86400) : Event where
  id := id
  userId := userId
  title := "Meeting"
  description := ""
  startTime := ⟨first * 2000000000, by omega, by omega⟩
  endTime := ⟨last * 2000000000, by omega, by omega⟩
  notifyBefore := 300

/-- Two users hold events at the same time; the event of one moves to the other, first in vain and
then to another time. -/
def movingHistory : List StoreOperation :=
  [.create "a" (sampleEvent "" "u1" 0 3600), .create "b" (sampleEvent "" "u2" 1800 5400),
    .update (sampleEvent "b" "u1" 1800 5400), .update (sampleEvent "b" "u1" 3600 7200), .list]

theorem movingHistory_keeps_events_apart :
    (∀ op ∈ movingHistory, op.MintsId) ∧
      (∀ id e, (empty.afterAll movingHistory).Stores id e → e.id = id ∧ e.id ≠ "") ∧
      (∀ id id' e e', (empty.afterAll movingHistory).Stores id e →
        (empty.afterAll movingHistory).Stores id' e' → e.id ≠ e'.id → e.userId = e'.userId →
        intervalsOverlap e.startTime e.endTime e'.startTime e'.endTime = false) ∧
      ∀ id id' e e' t, (empty.afterAll movingHistory).Stores id e →
        (empty.afterAll movingHistory).Stores id' e' → e.userId = e'.userId → e.Covers t →
        e'.Covers t → e = e' := by
  have h : ∀ op ∈ movingHistory, op.MintsId := by simp [movingHistory, StoreOperation.MintsId]
  exact ⟨h, histories_keep_events_apart movingHistory h⟩

end MemoryStore

end Reminders
