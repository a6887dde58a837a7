import Reminders.Proofs.Store.History

/-!
# Store — users do not affect each other

A writing operation names one id.  It *touches* the user who owns the event under this id and the
user who owns the event that it writes.  It changes nothing under other ids and nothing that belongs
to a user whom it does not touch, and what it does depends on nothing else than its id and the
events of the user for whom it writes.

* `stores_after_of_ne`, `stores_after_of_not_touches`: what a writing operation leaves alone.
* `perform_sameEffect`: what the effect of a writing operation depends on.
* `users_are_independent`: operations for different users commute, and the listings of a user do not
  show those of others.
-/

namespace Reminders

/-- The id that a writing operation names. -/
def StoreOperation.targetId? : StoreOperation → Option String
  | .create fresh e => some (e.identified fresh).id
  | .update e => some e.id
  | .delete id => some id
  | _ => none

namespace MemoryStore

/-- What an operation returns. -/
def resultOf (s : MemoryStore) (op : StoreOperation) : Except StoreError StoreAnswer :=
  (store.perform op s).1

/-- The user owns the event that the operation writes, or the one stored under the id that it
names. -/
def Touches (s : MemoryStore) (op : StoreOperation) (userId : String) : Prop :=
  (∃ e, op.candidate? = some e ∧ e.userId = userId) ∨
    ∃ id e, op.targetId? = some id ∧ s.Stores id e ∧ e.userId = userId

variable {s s' : MemoryStore} {op : StoreOperation} {id id' userId : String} {e : Event}

/-! ### What an operation leaves alone -/

/-- A writing operation leaves the store alone, puts its event under the id that it names, or
removes what is there. -/
theorem after_writing_cases (hop : op.targetId? = some id) :
    s.after op = s ∨ (∃ e, op.candidate? = some e ∧ e.id = id ∧ s.after op = s.put e) ∨
      s.after op = s.remove id := by
  rcases s.after_cases op with h | ⟨fresh, e, rfl, _, _, h⟩ | ⟨e, rfl, _, _, h⟩ | ⟨id', rfl, h⟩ |
      ⟨cutoff, rfl, _⟩
  · exact .inl h
  · exact .inr (.inl ⟨_, rfl, Option.some.inj hop, h⟩)
  · exact .inr (.inl ⟨_, rfl, Option.some.inj hop, h⟩)
  · obtain rfl := Option.some.inj hop
    exact .inr (.inr h)
  · cases hop

theorem stores_after_of_ne (hop : op.targetId? = some id) (hne : id' ≠ id) :
    (s.after op).Stores id' e ↔ s.Stores id' e := by
  rcases s.after_writing_cases hop with h | ⟨e', _, rfl, h⟩ | h
  · rw [h]
  · rw [h, stores_put]
    simp [hne]
  · rw [h, stores_remove]
    simp [hne]

/-- An operation changes nothing that belongs to a user whom it does not touch. -/
theorem stores_after_of_not_touches (hop : op.targetId? = some id)
    (htouches : ¬ s.Touches op e.userId) : (s.after op).Stores id' e ↔ s.Stores id' e := by
  by_cases hid : id' = id
  · subst hid
    -- What lies under the id, before and after, belongs to users who are touched.
    have hbefore : ¬ s.Stores id' e := fun he => htouches (.inr ⟨id', e, hop, he, rfl⟩)
    refine iff_of_false (fun he => ?_) hbefore
    rcases s.after_writing_cases hop with h | ⟨e', hcandidate, _, h⟩ | h
    · exact hbefore (h ▸ he)
    · rcases stores_put.mp (h ▸ he) with ⟨_, rfl⟩ | ⟨_, he⟩
      · exact htouches (.inl ⟨e, hcandidate, rfl⟩)
      · exact hbefore he
    · exact (stores_remove.mp (h ▸ he)).1 rfl
  · exact stores_after_of_ne hop hid

/-! ### What an operation depends on -/

theorem contains_congr (h : ∀ e, s.Stores id e ↔ s'.Stores id e) :
    s.events.contains id = s'.events.contains id := by
  rw [Bool.eq_iff_iff, contains_iff, contains_iff]
  exact exists_congr h

/-- Which events exclude a candidate depends only on the events of its owner. -/
theorem conflicts_congr (h : ∀ id other, other.userId = e.userId →
    (s.Stores id other ↔ s'.Stores id other)) : s.conflicts e = s'.conflicts e :=
  filter_values_congr fun id other hc => h id other (Event.conflictsWith_iff.mp hc).1

theorem findConflict_congr (h : ∀ id other, other.userId = e.userId →
    (s.Stores id other ↔ s'.Stores id other)) :
    e.findConflict s.values = e.findConflict s'.values := by
  have hconflicts (t : MemoryStore) : e.findConflict t.values = (t.conflicts e).head? := by
    rw [conflicts, List.head?_filter]
    rfl
  rw [hconflicts, hconflicts, conflicts_congr h]

/-- Two steps from two stores return the same, and both leave the store alone, put the same event or
remove what is under the same id. -/
inductive SameEffect {α : Type} (s s' : MemoryStore) : α × MemoryStore → α × MemoryStore → Prop
  | unchanged (a : α) : SameEffect s s' (a, s) (a, s')
  | put (a : α) (e : Event) : SameEffect s s' (a, s.put e) (a, s'.put e)
  | remove (a : α) (id : String) : SameEffect s s' (a, s.remove id) (a, s'.remove id)

namespace SameEffect

variable {α β : Type} {x y : α × MemoryStore}

theorem map (f : α → β) (h : SameEffect s s' x y) : SameEffect s s' (f x.1, x.2) (f y.1, y.2) := by
  cases h with
  | unchanged a => exact .unchanged (f a)
  | put a e => exact .put (f a) e
  | remove a id => exact .remove (f a) id

theorem answer_eq (h : SameEffect s s' x y) : x.1 = y.1 := by
  cases h <;> rfl

/-- Stores that agree on an id still do so afterwards. -/
theorem stores_iff (h : SameEffect s s' x y) (hid : s.Stores id e ↔ s'.Stores id e) :
    x.2.Stores id e ↔ y.2.Stores id e := by
  cases h with
  | unchanged a => exact hid
  | put a e' => rw [stores_put, stores_put, hid]
  | remove a id' => rw [stores_remove, stores_remove, hid]

end SameEffect

theorem create_sameEffect (fresh : String)
    (hid : ∀ other,
      s.Stores (e.identified fresh).id other ↔ s'.Stores (e.identified fresh).id other)
    (howner : ∀ id other, other.userId = (e.identified fresh).userId →
      (s.Stores id other ↔ s'.Stores id other)) :
    SameEffect s s' (s.create fresh e) (s'.create fresh e) := by
  simp only [create, createAmong, writeAmong, contains_congr hid, findConflict_congr howner]
  split
  · exact .unchanged _
  · cases (e.identified fresh).findConflict s'.values with
    | some other => exact .unchanged _
    | none => exact .put _ _

theorem update_sameEffect (hid : ∀ other, s.Stores e.id other ↔ s'.Stores e.id other)
    (howner : ∀ id other, other.userId = e.userId → (s.Stores id other ↔ s'.Stores id other)) :
    SameEffect s s' (s.update e) (s'.update e) := by
  simp only [update, updateAmong, writeAmong, contains_congr hid, findConflict_congr howner]
  split
  · exact .unchanged _
  · cases e.findConflict s'.values with
    | some other => exact .unchanged _
    | none => exact .put _ _

theorem delete_sameEffect (hid : ∀ other, s.Stores id other ↔ s'.Stores id other) :
    SameEffect s s' (s.delete id) (s'.delete id) := by
  simp only [delete, contains_congr hid]
  split
  · exact .remove _ _
  · exact .unchanged _

/-- A writing operation has the same effect on stores that agree on the id that it names and on the
events of the user for whom it writes. -/
theorem perform_sameEffect (hop : op.targetId? = some id)
    (hid : ∀ e, s.Stores id e ↔ s'.Stores id e)
    (howner : ∀ e, op.candidate? = some e → ∀ id other, other.userId = e.userId →
      (s.Stores id other ↔ s'.Stores id other)) :
    SameEffect s s' (store.perform op s) (store.perform op s') := by
  cases op with
  | create fresh e =>
      obtain rfl := Option.some.inj hop
      exact (create_sameEffect fresh hid (howner _ rfl)).map _
  | update e =>
      obtain rfl := Option.some.inj hop
      exact (update_sameEffect hid (howner _ rfl)).map _
  | delete id' =>
      obtain rfl := Option.some.inj hop
      exact (delete_sameEffect hid).map _
  | deleteOlderThan _ | get _ | list | listByUser _ | listByUserInRange _ _ _ | listDueBefore _ _ =>
      cases hop

/-! ### Operations for different users -/

section Independent

variable {a b : StoreOperation} {i j : String}

/-- No user is touched by both operations. -/
def Independent (s : MemoryStore) (a b : StoreOperation) : Prop :=
  ∀ userId, s.Touches a userId → ¬ s.Touches b userId

theorem Independent.symm (h : s.Independent a b) : s.Independent b a :=
  fun userId hb ha => h userId ha hb

/-- What an operation writes for does not belong to a user whom the other one touches. -/
theorem Independent.not_touches (h : s.Independent a b) {e other : Event}
    (he : b.candidate? = some e) (hother : other.userId = e.userId) :
    ¬ s.Touches a other.userId :=
  fun ha => h _ ha (.inl ⟨e, he, hother.symm⟩)

/-- An operation has the same effect before and after one that is independent of it. -/
theorem sameEffect_after (ha : a.targetId? = some i) (hb : b.targetId? = some j) (hne : i ≠ j)
    (h : s.Independent a b) :
    SameEffect (s.after a) s (store.perform b (s.after a)) (store.perform b s) :=
  perform_sameEffect hb (fun _ => stores_after_of_ne ha hne.symm) fun _ he _ _ hother =>
    stores_after_of_not_touches ha (h.not_touches he hother)

/-- Independent operations may be performed in either order. -/
theorem after_comm (ha : a.targetId? = some i) (hb : b.targetId? = some j) (hne : i ≠ j)
    (h : s.Independent a b) : (s.after a).after b = (s.after b).after a := by
  refine ext_stores fun id e => ?_
  by_cases hi : id = i
  · subst hi
    rw [stores_after_of_ne hb hne]
    exact ((sameEffect_after hb ha hne.symm h.symm).stores_iff (stores_after_of_ne hb hne)).symm
  · rw [stores_after_of_ne ha hi]
    by_cases hj : id = j
    · subst hj
      exact (sameEffect_after ha hb hne h).stores_iff (stores_after_of_ne ha hi)
    · rw [stores_after_of_ne hb hj, stores_after_of_ne ha hi, stores_after_of_ne hb hj]

end Independent

/-- **Users do not affect each other.**  Two operations in any store that name different ids and
touch no common user return the same in either order, failures included, and lead to the same store;
if a stored event excludes one that they would write, the choice of such events is the same too.
And an operation leaves the listings of every user whom it does not touch as they were. -/
theorem users_are_independent (s : MemoryStore) :
    (∀ (a b : StoreOperation) (i j : String), a.targetId? = some i → b.targetId? = some j → i ≠ j →
      (∀ userId, s.Touches a userId → ¬ s.Touches b userId) →
        (s.after b).resultOf a = s.resultOf a ∧ (s.after a).resultOf b = s.resultOf b ∧
        (s.after a).after b = (s.after b).after a ∧
        (∀ e, a.candidate? = some e → (s.after b).conflicts e = s.conflicts e) ∧
        ∀ e, b.candidate? = some e → (s.after a).conflicts e = s.conflicts e) ∧
    ∀ (op : StoreOperation) (id userId : String), op.targetId? = some id → ¬ s.Touches op userId →
      (s.after op).resultOf (.listByUser userId) = s.resultOf (.listByUser userId) ∧
      ∀ first last, (s.after op).resultOf (.listByUserInRange userId first last) =
        s.resultOf (.listByUserInRange userId first last) := by
  constructor
  · intro a b i j ha hb hne h
    have hsymm : s.Independent b a := Independent.symm h
    refine ⟨(sameEffect_after hb ha hne.symm hsymm).answer_eq,
      (sameEffect_after ha hb hne h).answer_eq, after_comm ha hb hne h, fun e he => ?_, fun e he => ?_⟩
    · exact conflicts_congr fun _ _ hother =>
        stores_after_of_not_touches hb (hsymm.not_touches he hother)
    · exact conflicts_congr fun _ _ hother =>
        stores_after_of_not_touches ha (Independent.not_touches h he hother)
  · intro op id userId hop htouches
    have hstores : ∀ id' e, e.userId = userId → ((s.after op).Stores id' e ↔ s.Stores id' e) := by
      rintro id' e rfl
      exact stores_after_of_not_touches hop htouches
    refine ⟨congrArg (Except.ok ∘ StoreAnswer.events) (collect_congr fun id' e he => ?_),
      fun first last => congrArg (Except.ok ∘ StoreAnswer.events) (collect_congr fun id' e he => ?_)⟩
    · exact hstores id' e (beq_iff_eq.mp he)
    · exact hstores id' e (beq_iff_eq.mp (Bool.and_eq_true_iff.mp he).1)

/-- Two users with an event at the same time. -/
def twoCalendars : MemoryStore :=
  (empty.put (sampleEvent "a" "u1" 0 3600)).put (sampleEvent "b" "u2" 0 3600)

/-- The event of the first user moves to a third one, while the second user asks in vain for an
event that overlaps the one there is. -/
theorem twoCalendars_are_independent :
    (StoreOperation.update (sampleEvent "a" "u3" 1800 5400)).targetId? = some "a" ∧
      (StoreOperation.create "" (sampleEvent "c" "u2" 1800 5400)).targetId? = some "c" ∧
      (∀ userId, twoCalendars.Touches (.update (sampleEvent "a" "u3" 1800 5400)) userId →
        ¬ twoCalendars.Touches (.create "" (sampleEvent "c" "u2" 1800 5400)) userId) ∧
      (twoCalendars.after (.update (sampleEvent "a" "u3" 1800 5400))).resultOf
          (.create "" (sampleEvent "c" "u2" 1800 5400)) = .error (.conflictOverlap "c" "b") ∧
      (twoCalendars.after (.update (sampleEvent "a" "u3" 1800 5400))).resultOf (.listByUser "u2") =
        .ok (.events [sampleEvent "b" "u2" 0 3600]) := by
  have hupdate : ∀ userId, twoCalendars.Touches (.update (sampleEvent "a" "u3" 1800 5400)) userId →
      userId = "u3" ∨ userId = "u1" := by
    rintro userId (⟨e, he, rfl⟩ | ⟨id, e, hid, he, rfl⟩)
    · obtain rfl := Option.some.inj he
      exact .inl rfl
    · obtain rfl : "a" = id := Option.some.inj hid
      obtain rfl : sampleEvent "a" "u1" 0 3600 = e := Option.some.inj he
      exact .inr rfl
  have hcreate : ∀ userId,
      twoCalendars.Touches (.create "" (sampleEvent "c" "u2" 1800 5400)) userId →
        userId = "u2" := by
    rintro userId (⟨e, he, rfl⟩ | ⟨id, e, hid, he, rfl⟩)
    · obtain rfl := Option.some.inj he
      rfl
    · obtain rfl : "c" = id := Option.some.inj hid
      have hnone : none = some e := he
      cases hnone
  have hapart : ∀ userId, twoCalendars.Touches (.update (sampleEvent "a" "u3" 1800 5400)) userId →
      userId ≠ "u2" := by
    intro userId h
    rcases hupdate userId h with rfl | rfl <;> decide
  have hdisjoint := fun userId h h' => hapart userId h (hcreate userId h')
  have hlisted : twoCalendars.resultOf (.listByUser "u2") =
      .ok (.events [sampleEvent "b" "u2" 0 3600]) :=
    congrArg (Except.ok ∘ StoreAnswer.events)
      (List.mergeSort_singleton (sampleEvent "b" "u2" 0 3600))
  obtain ⟨hcommute, hlistings⟩ := users_are_independent twoCalendars
  exact ⟨rfl, rfl, hdisjoint, (hcommute _ _ "a" "c" rfl rfl (by decide) hdisjoint).2.1,
    (hlistings (.update (sampleEvent "a" "u3" 1800 5400)) "a" "u2" rfl
      fun h => hapart _ h rfl).1.trans hlisted⟩

end MemoryStore

end Reminders
