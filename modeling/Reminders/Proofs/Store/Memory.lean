import Reminders.Proofs.Event.Interval
import Reminders.Store.Memory

/-!
# Store — what the operations in memory do

`Stores s id e` says that the store holds `e` under `id`.  The writing operations change what is
stored by `put` and by removal, and only after their checks: the id is looked up first, and then the
store must *admit* the event, which no stored event may exclude.

* `createAmong_ends`, `updateAmong_ends`: how writing ends, in whatever order the stored events are
  looked through.
* `create_cases`, `update_cases`, `delete_cases`: all the ways in which an operation ends, each with
  what was found, what is returned and what is stored afterwards.
-/

namespace Reminders.MemoryStore

/-- The store holds `e` under `id`. -/
def Stores (s : MemoryStore) (id : String) (e : Event) : Prop :=
  s.events[id]? = some e

/-- No stored event excludes the candidate. -/
def Admits (s : MemoryStore) (candidate : Event) : Prop :=
  ∀ id other, s.Stores id other → candidate.conflictsWith other = false

/-- The store with `e` under its own id. -/
def put (s : MemoryStore) (e : Event) : MemoryStore :=
  ⟨s.events.insert e.id e⟩

/-- The store without the event under `id`. -/
def remove (s : MemoryStore) (id : String) : MemoryStore :=
  ⟨s.events.erase id⟩

/-- The store without the events that ended before `cutoff`. -/
def purge (s : MemoryStore) (cutoff : Instant) : MemoryStore :=
  ⟨s.events.filter fun _ e => !e.endedBefore cutoff⟩

/-! ### What is stored -/

theorem Stores.unique {s : MemoryStore} {id : String} {e e' : Event} (h : s.Stores id e)
    (h' : s.Stores id e') : e = e' :=
  Option.some.inj (h.symm.trans h')

theorem not_stores_empty {id : String} {e : Event} : ¬ empty.Stores id e := by
  simp [Stores, empty]

theorem stores_put {s : MemoryStore} {e e' : Event} {id : String} :
    (s.put e).Stores id e' ↔ id = e.id ∧ e' = e ∨ id ≠ e.id ∧ s.Stores id e' := by
  simp only [Stores, put, Std.ExtTreeMap.getElem?_insert, Std.LawfulEqCmp.compare_eq_iff_eq]
  by_cases h : e.id = id
  · simp [h, eq_comm]
  · simp [h, Ne.symm h]

theorem stores_remove {s : MemoryStore} {id id' : String} {e : Event} :
    (s.remove id).Stores id' e ↔ id' ≠ id ∧ s.Stores id' e := by
  simp only [Stores, remove, Std.ExtTreeMap.getElem?_erase, Std.LawfulEqCmp.compare_eq_iff_eq]
  by_cases h : id = id'
  · simp [h]
  · simp [h, Ne.symm h]

theorem stores_purge {s : MemoryStore} {cutoff : Instant} {id : String} {e : Event} :
    (s.purge cutoff).Stores id e ↔ s.Stores id e ∧ e.endedBefore cutoff = false := by
  simp [Stores, purge, Option.filter_eq_some_iff]

theorem contains_iff {s : MemoryStore} {id : String} :
    s.events.contains id = true ↔ ∃ e, s.Stores id e := by
  rw [Std.ExtTreeMap.contains_eq_isSome_getElem?, Option.isSome_iff_exists]
  rfl

theorem mem_values {s : MemoryStore} {e : Event} : e ∈ s.values ↔ ∃ id, s.Stores id e := by
  simp [values, Stores, Std.ExtTreeMap.mem_toList_iff_getElem?_eq_some]

/-- A store is determined by what it holds. -/
theorem ext_stores {s s' : MemoryStore} (h : ∀ id e, s.Stores id e ↔ s'.Stores id e) : s = s' :=
  congrArg MemoryStore.mk (Std.ExtTreeMap.ext_getElem? fun id => Option.ext (h id))

/-- Stores that hold the same events of some property name them in the same order. -/
theorem filter_values_congr {s s' : MemoryStore} {p : Event → Bool}
    (h : ∀ id e, p e = true → (s.Stores id e ↔ s'.Stores id e)) :
    s.values.filter p = s'.values.filter p := by
  have hvalues : ∀ t : MemoryStore,
      t.values.filter p = (t.events.filter fun _ e => p e).toList.map Prod.snd := fun t => by
    rw [values, Std.ExtTreeMap.toList_filter, List.filter_map]
    rfl
  have hevents : (s.events.filter fun _ e => p e) = s'.events.filter fun _ e => p e := by
    refine Std.ExtTreeMap.ext_getElem? fun id => Option.ext fun e => ?_
    simp only [Std.ExtTreeMap.getElem?_filter', Option.filter_eq_some_iff]
    exact ⟨fun ⟨he, hp⟩ => ⟨(h id e hp).mp he, hp⟩, fun ⟨he, hp⟩ => ⟨(h id e hp).mpr he, hp⟩⟩
  rw [hvalues, hvalues, hevents]

/-- A listing depends only on the events of its property. -/
theorem collect_congr {s s' : MemoryStore} {p : Event → Bool}
    (h : ∀ id e, p e = true → (s.Stores id e ↔ s'.Stores id e)) : s.collect p = s'.collect p := by
  rw [collect, collect, filter_values_congr h]

/-- A listing shows the stored events of its property. -/
theorem mem_collect {s : MemoryStore} {p : Event → Bool} {e : Event} :
    e ∈ s.collect p ↔ (∃ id, s.Stores id e) ∧ p e = true := by
  simp only [collect, Event.sort, List.mem_mergeSort, List.mem_filter, mem_values]

/-- Nothing is listed that no stored event has. -/
theorem collect_eq_nil {s : MemoryStore} {p : Event → Bool} :
    s.collect p = [] ↔ ∀ id e, s.Stores id e → p e = false := by
  simp only [List.eq_nil_iff_forall_not_mem, mem_collect, not_and, Bool.not_eq_true]
  exact ⟨fun h id e he => h e ⟨id, he⟩, fun h e ⟨id, he⟩ => h id e he⟩

section Among

variable {stored : List Event} {s : MemoryStore} {e other : Event}

theorem findConflict_eq_none (hstored : stored.Perm s.values) :
    e.findConflict stored = none ↔ s.Admits e := by
  simp only [Event.findConflict, List.find?_eq_none, hstored.mem_iff, mem_values, Admits,
    Bool.not_eq_true]
  exact ⟨fun h id other ho => h other ⟨id, ho⟩, fun h other ⟨id, ho⟩ => h id other ho⟩

/-- A conflict that is found is with a stored event that excludes the candidate. -/
theorem findConflict_eq_some (hstored : stored.Perm s.values)
    (h : e.findConflict stored = some other) :
    (∃ id, s.Stores id other) ∧ e.conflictsWith other = true :=
  ⟨mem_values.mp (hstored.mem_iff.mp (List.mem_of_find?_eq_some h)), List.find?_some h⟩

/-! ### How the operations end -/

/-- Writing an event either meets a stored event that excludes it, or puts it into the store. -/
theorem writeAmong_cases (hstored : stored.Perm s.values) (e : Event) :
    (∃ id other, s.Stores id other ∧ e.conflictsWith other = true ∧
        s.writeAmong stored e = .error (.conflictOverlap e.id other.id)) ∨
      (s.Admits e ∧ s.writeAmong stored e = .ok (s.put e)) := by
  rw [writeAmong]
  cases h : e.findConflict stored with
  | none => exact .inr ⟨(findConflict_eq_none hstored).mp h, rfl⟩
  | some other =>
      obtain ⟨⟨id, ho⟩, hc⟩ := findConflict_eq_some hstored h
      exact .inl ⟨id, other, ho, hc, rfl⟩

/-- **How writing an event ends.**  It is refused unless it is `ready`, a stored event excludes it,
or it is put into the store. -/
inductive Ends {α : Type} (s : MemoryStore) (e : Event) (ready : Prop) (refusal : StoreError)
    (answer : α) : Except StoreError α × MemoryStore → Prop where
  | refused (h : ¬ ready) : Ends s e ready refusal answer (.error refusal, s)
  | excluded {id : String} {other : Event} (h : ready) (ho : s.Stores id other)
      (hc : e.conflictsWith other = true) :
      Ends s e ready refusal answer (.error (.conflictOverlap e.id other.id), s)
  | written (h : ready) (ha : s.Admits e) : Ends s e ready refusal answer (.ok answer, s.put e)

/-- To be added, an event needs a free id. -/
theorem createAmong_ends (hstored : stored.Perm s.values) (fresh : String) (e : Event) :
    s.Ends (e.identified fresh) (∀ other, ¬ s.Stores (e.identified fresh).id other)
      (.alreadyExists (e.identified fresh).id) (e.identified fresh).id
      (s.createAmong stored fresh e) := by
  simp only [createAmong]
  split
  · next h =>
      obtain ⟨other, ho⟩ := contains_iff.mp h
      exact .refused fun hfree => hfree other ho
  · next h =>
      have hfree : ∀ other, ¬ s.Stores (e.identified fresh).id other :=
        fun other ho => h (contains_iff.mpr ⟨other, ho⟩)
      rcases writeAmong_cases hstored (e.identified fresh) with ⟨id, other, ho, hc, hw⟩ | ⟨ha, hw⟩
      · rw [hw]
        exact .excluded hfree ho hc
      · rw [hw]
        exact .written hfree ha

/-- To be replaced, an event must be stored. -/
theorem updateAmong_ends (hstored : stored.Perm s.values) (e : Event) :
    s.Ends e (∃ other, s.Stores e.id other) (.notFound e.id) () (s.updateAmong stored e) := by
  simp only [updateAmong]
  split
  · next h =>
      rw [Bool.not_eq_true', ← Bool.not_eq_true, contains_iff] at h
      exact .refused h
  · next h =>
      have hheld : ∃ other, s.Stores e.id other := contains_iff.mp (by simpa using h)
      rcases writeAmong_cases hstored e with ⟨id, other, ho, hc, hw⟩ | ⟨ha, hw⟩
      · rw [hw]
        exact .excluded hheld ho hc
      · rw [hw]
        exact .written hheld ha

end Among

/-- **How adding an event ends.**  Its id is taken, a stored event excludes it, or it is put into
the store. -/
theorem create_cases (fresh : String) (e : Event) (s : MemoryStore) :
    (∃ other, s.Stores (e.identified fresh).id other ∧
        s.create fresh e = (.error (.alreadyExists (e.identified fresh).id), s)) ∨
      (∃ id other, s.Stores id other ∧ (e.identified fresh).conflictsWith other = true ∧
        s.create fresh e =
          (.error (.conflictOverlap (e.identified fresh).id other.id), s)) ∨
      ((∀ other, ¬ s.Stores (e.identified fresh).id other) ∧ s.Admits (e.identified fresh) ∧
        s.create fresh e = (.ok (e.identified fresh).id, s.put (e.identified fresh))) := by
  have hends : s.Ends _ _ _ _ (s.create fresh e) := createAmong_ends (.refl _) fresh e
  generalize s.create fresh e = r at hends ⊢
  cases hends with
  | refused h =>
      obtain ⟨other, ho⟩ := Classical.not_forall_not.mp h
      exact .inl ⟨other, ho, rfl⟩
  | excluded _ ho hc => exact .inr (.inl ⟨_, _, ho, hc, rfl⟩)
  | written hfree ha => exact .inr (.inr ⟨hfree, ha, rfl⟩)

/-- Where its id is free and nothing excludes it, an event is added. -/
theorem create_of_admits {fresh : String} {e : Event} {s : MemoryStore}
    (hfree : ∀ other, ¬ s.Stores (e.identified fresh).id other) (ha : s.Admits (e.identified fresh)) :
    s.create fresh e = (.ok (e.identified fresh).id, s.put (e.identified fresh)) := by
  rcases s.create_cases fresh e with ⟨other, ho, _⟩ | ⟨id, other, ho, hc, _⟩ | ⟨_, _, h⟩
  · exact absurd ho (hfree other)
  · rw [ha id other ho] at hc
    cases hc
  · exact h

/-- Where its id is taken, an event is not added, whatever else excludes it. -/
theorem create_of_stores {fresh : String} {e other : Event} {s : MemoryStore}
    (h : s.Stores (e.identified fresh).id other) :
    s.create fresh e = (.error (.alreadyExists (e.identified fresh).id), s) := by
  simp only [create, createAmong]
  rw [if_pos (contains_iff.mpr ⟨other, h⟩)]

/-- **How replacing an event ends.**  Nothing is stored under its id, a stored event excludes it, or
it is put into the store. -/
theorem update_cases (e : Event) (s : MemoryStore) :
    ((∀ other, ¬ s.Stores e.id other) ∧ s.update e = (.error (.notFound e.id), s)) ∨
      (∃ id other, s.Stores id other ∧ e.conflictsWith other = true ∧
        s.update e = (.error (.conflictOverlap e.id other.id), s)) ∨
      ((∃ other, s.Stores e.id other) ∧ s.Admits e ∧ s.update e = (.ok (), s.put e)) := by
  have hends : s.Ends _ _ _ _ (s.update e) := updateAmong_ends (.refl _) e
  generalize s.update e = r at hends ⊢
  cases hends with
  | refused h => exact .inl ⟨not_exists.mp h, rfl⟩
  | excluded _ ho hc => exact .inr (.inl ⟨_, _, ho, hc, rfl⟩)
  | written hheld ha => exact .inr (.inr ⟨hheld, ha, rfl⟩)

/-- Where there is an event of its id and nothing excludes it, an event is replaced. -/
theorem update_of_admits {e : Event} {s : MemoryStore} (hheld : ∃ other, s.Stores e.id other)
    (ha : s.Admits e) : s.update e = (.ok (), s.put e) := by
  rcases s.update_cases e with ⟨hfree, _⟩ | ⟨id, other, ho, hc, _⟩ | ⟨_, _, h⟩
  · obtain ⟨other, ho⟩ := hheld
    exact absurd ho (hfree other)
  · rw [ha id other ho] at hc
    cases hc
  · exact h

/-- Where nothing is stored under its id, an event replaces nothing, whatever excludes it. -/
theorem update_of_not_stores {e : Event} {s : MemoryStore} (h : ∀ other, ¬ s.Stores e.id other) :
    s.update e = (.error (.notFound e.id), s) := by
  have hheld : (!s.events.contains e.id) = true := by
    rw [Bool.not_eq_true', ← Bool.not_eq_true, contains_iff]
    exact fun ⟨other, ho⟩ => h other ho
  simp only [update, updateAmong]
  rw [if_pos hheld]

/-- **How removing an event ends.**  Nothing is stored under the id, or what is stored there is
removed. -/
theorem delete_cases (id : String) (s : MemoryStore) :
    ((∀ e, ¬ s.Stores id e) ∧ s.delete id = (.error (.notFound id), s)) ∨
      ((∃ e, s.Stores id e) ∧ s.delete id = (.ok (), s.remove id)) := by
  simp only [delete]
  split
  · next h => exact .inr ⟨contains_iff.mp h, rfl⟩
  · next h => exact .inl ⟨fun e he => h (contains_iff.mpr ⟨e, he⟩), rfl⟩

theorem get_of_stores {s : MemoryStore} {id : String} {e : Event} (h : s.Stores id e) :
    s.get id = .ok e := by
  rw [get, show s.events[id]? = some e from h]

theorem get_of_not_stores {s : MemoryStore} {id : String} (h : ∀ e, ¬ s.Stores id e) :
    s.get id = .error (.notFound id) := by
  rw [get, Option.eq_none_iff_forall_ne_some.mpr h]

end Reminders.MemoryStore
