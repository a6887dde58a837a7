import Reminders.Proofs.Store.Listing
import Reminders.Proofs.Store.Rows
import Reminders.Proofs.Store.Sole

/-!
# Store — the two stores agree

The store in memory and the store in a database with a sole client are asked for the same operations
one after another, with times that a column can hold.  The store in memory *holds* some events if
these are the stored ones, each once and under its own id.  As long as the table has the rows of the
events that the store in memory holds, an operation is answered in the same way on both sides and
the table has the rows of the events held afterwards.

* `Agree`: the answers of the two stores to one operation.
* `Holds.put`, `Holds.replace`, `Holds.filter`: what is held after a change.
* `Simulates`: one operation on both sides; `perform_simulates` is the step of the simulation.
* `stores_agree`: after any operations the next one is answered in the same way.
-/

namespace Reminders

open Database

/-- The event to be written is storable, and a column can hold the times of the operation. -/
def StoreOperation.IsStorable : StoreOperation → Prop
  | .create _ e | .update e => e.IsStorable
  | .deleteOlderThan cutoff => cutoff.IsStorable
  | .listByUserInRange _ first last => first.IsStorable ∧ last.IsStorable
  | .listDueBefore now before => now.IsStorable ∧ before.IsStorable
  | .delete _ | .get _ | .list | .listByUser _ => True

instance (op : StoreOperation) : Decidable op.IsStorable :=
  match op with
  | .create _ e | .update e => inferInstanceAs (Decidable e.IsStorable)
  | .deleteOlderThan cutoff => inferInstanceAs (Decidable cutoff.IsStorable)
  | .listByUserInRange _ first last =>
    inferInstanceAs (Decidable (first.IsStorable ∧ last.IsStorable))
  | .listDueBefore now before => inferInstanceAs (Decidable (now.IsStorable ∧ before.IsStorable))
  | .delete _ | .get _ | .list | .listByUser _ => inferInstanceAs (Decidable True)

namespace MemoryStore

/-- The other event is stored, belongs to the owner of the candidate, has another id and overlaps
it. -/
structure Excludes (s : MemoryStore) (candidate other : Event) : Prop where
  stored : s.Stores other.id other
  owner : other.userId = candidate.userId
  different : other.id ≠ candidate.id
  overlaps : candidate.overlaps other = true

theorem Excludes.conflictsWith {s : MemoryStore} {candidate other : Event}
    (h : s.Excludes candidate other) : candidate.conflictsWith other = true :=
  Event.conflictsWith_iff.mpr ⟨h.owner, h.different, h.overlaps⟩

theorem Excludes.not_admits {s : MemoryStore} {candidate other : Event}
    (h : s.Excludes candidate other) : ¬ s.Admits candidate := by
  intro hadmits
  exact Bool.false_ne_true ((hadmits _ _ h.stored).symm.trans h.conflictsWith)

/-- The answers of two stores to an operation agree: both return the same, or both fail with the
same error.  Where a stored event excludes the one to be written they may name different ones. -/
inductive Agree (s : MemoryStore) (op : StoreOperation) {α : Type} :
    Except StoreError α → Except StoreError α → Prop
  | ok (a : α) : Agree s op (.ok a) (.ok a)
  | notFound (id : String) : Agree s op (.error (.notFound id)) (.error (.notFound id))
  | alreadyExists (id : String) :
    Agree s op (.error (.alreadyExists id)) (.error (.alreadyExists id))
  | conflictOverlap {e other other' : Event} (he : op.candidate? = some e)
    (ho : s.Excludes e other) (ho' : s.Excludes e other') :
    Agree s op (.error (.conflictOverlap e.id other.id)) (.error (.conflictOverlap e.id other'.id))

/-! ### The events of both stores -/

/-- The events are the stored ones, each once and under its own id, and a column can hold their
times. -/
structure Holds (s : MemoryStore) (es : List Event) : Prop where
  stores_iff : ∀ {id e}, s.Stores id e ↔ e ∈ es ∧ e.id = id
  distinct : es.Pairwise fun a b => a.id ≠ b.id
  storable : ∀ e ∈ es, e.IsStorable

namespace Holds

variable {s s' : MemoryStore} {es : List Event} {e : Event}

theorem empty : MemoryStore.empty.Holds [] where
  stores_iff := by simp [not_stores_empty]
  distinct := .nil
  storable := by simp

theorem stores (h : s.Holds es) (he : e ∈ es) : s.Stores e.id e :=
  h.stores_iff.mpr ⟨he, rfl⟩

theorem has_iff (h : s.Holds es) {id : String} :
    (Table.ofEvents es).Has id ↔ ∃ e, s.Stores id e := by
  constructor
  · rintro ⟨r, hr, hid⟩
    obtain ⟨e, he, rfl⟩ := Table.mem_ofEvents.mp hr
    exact ⟨e, h.stores_iff.mpr ⟨he, hid⟩⟩
  · rintro ⟨e, he⟩
    obtain ⟨he, hid⟩ := h.stores_iff.mp he
    exact ⟨.ofEvent e, Table.mem_ofEvents.mpr ⟨e, he, rfl⟩, hid⟩

theorem not_stores (h : s.Holds es) {id : String} (hid : ¬ (Table.ofEvents es).Has id) :
    ∀ other, ¬ s.Stores id other := by
  intro other ho
  exact hid (h.has_iff.mpr ⟨other, ho⟩)

theorem isKeyed (h : s.Holds es) : (Table.ofEvents es).IsKeyed :=
  List.pairwise_map.mpr h.distinct

/-- The map of the store in memory has the same events, in some other order. -/
theorem perm (h : s.Holds es) : es.Perm s.values := by
  have hvalues : s.values.Pairwise fun a b => a.id ≠ b.id :=
    pairwise_values_of_keyed fun he => (h.stores_iff.mp he).2
  have hnodup : ∀ {l : List Event}, (l.Pairwise fun a b => a.id ≠ b.id) → l.Nodup := by
    intro l hl
    exact hl.imp fun hne heq => hne (congrArg Event.id heq)
  refine (List.perm_ext_iff_of_nodup (hnodup h.distinct) (hnodup hvalues)).mpr fun e => ?_
  rw [mem_values]
  constructor
  · intro he
    exact ⟨e.id, h.stores he⟩
  · rintro ⟨id, he⟩
    exact (h.stores_iff.mp he).1

theorem length_eq (h : s.Holds es) : es.length = s.size := by
  rw [h.perm.length_eq, values, List.length_map, Std.ExtTreeMap.length_toList, size]

/-- Events are listed in one order only, so a listing does not show the order of a map. -/
theorem sort_filter (h : s.Holds es) (p : Event → Bool) :
    Event.sort (es.filter p) = s.collect p := by
  have hsorted : ∀ l : List Event, (Event.sort l).Pairwise fun a b => a.listedBefore b = true :=
    List.pairwise_mergeSort Event.listedBefore_trans Event.listedBefore_total
  have hperm : (Event.sort (es.filter p)).Perm (s.collect p) :=
    (List.mergeSort_perm _ _).trans ((h.perm.filter p).trans (List.mergeSort_perm _ _).symm)
  refine hperm.eq_of_pairwise ?_ (hsorted _) (hsorted _)
  intro a b ha hb hab hba
  have ha' : a ∈ es := (List.mem_filter.mp (List.mem_mergeSort.mp ha)).1
  have hb' : b ∈ es := (List.mem_filter.mp (List.mem_mergeSort.mp (hperm.mem_iff.mpr hb))).1
  have hid : a.id = b.id := Event.id_eq_of_listedBefore hab hba
  exact (h.stores ha').unique (hid ▸ h.stores hb')

/-! ### Events that exclude a candidate -/

theorem excludes (h : s.Holds es) {id : String} {other : Event} (ho : s.Stores id other)
    (hc : e.conflictsWith other = true) : s.Excludes e other := by
  obtain ⟨howner, hid, hoverlaps⟩ := Event.conflictsWith_iff.mp hc
  exact ⟨h.stores (h.stores_iff.mp ho).1, howner, hid, hoverlaps⟩

/-- A row of another event of the owner that overlaps the candidate is that of an event which
excludes it. -/
theorem excludes_of_row (h : s.Holds es) (he : e.IsStorable) {r : EventRow}
    (hr : r ∈ Table.ofEvents es) (howner : r.userId = e.userId) (hid : r.id ≠ e.id)
    (hmeets : r.meets (microsOf e.startTime) (microsOf e.endTime) = true) :
    ∃ other, s.Excludes e other ∧ r.id = other.id := by
  obtain ⟨other, ho, rfl⟩ := Table.mem_ofEvents.mp hr
  rw [EventRow.meets_ofEvent he (h.storable other ho)] at hmeets
  exact ⟨other, ⟨h.stores ho, howner, hid, hmeets⟩, rfl⟩

/-- The table is clear for a row if the store in memory admits its event. -/
theorem clearFor_iff (h : s.Holds es) (he : e.IsStorable) :
    (Table.ofEvents es).ClearFor (.ofEvent e) ↔ s.Admits e := by
  constructor
  · intro hclear id other ho
    obtain ⟨ho, _⟩ := h.stores_iff.mp ho
    rw [Event.conflictsWith_eq_false_iff]
    intro howner hid
    rw [← EventRow.meets_ofEvent he (h.storable other ho)]
    exact hclear _ (Table.mem_ofEvents.mpr ⟨other, ho, rfl⟩) howner hid
  · intro hadmits r hr howner hid
    obtain ⟨other, ho, rfl⟩ := Table.mem_ofEvents.mp hr
    have hapart := Event.conflictsWith_eq_false_iff.mp (hadmits _ other (h.stores ho)) howner hid
    exact (EventRow.meets_ofEvent he (h.storable other ho)).trans hapart

/-! ### Changes -/

/-- An event under a free id comes last. -/
theorem put (h : s.Holds es) (he : e.IsStorable) (hfree : ∀ other, ¬ s.Stores e.id other) :
    (s.put e).Holds (es ++ [e]) where
  stores_iff := by
    intro id e'
    rw [stores_put, h.stores_iff, List.mem_append, List.mem_singleton]
    constructor
    · rintro (⟨rfl, rfl⟩ | ⟨_, he', rfl⟩)
      · exact ⟨.inr rfl, rfl⟩
      · exact ⟨.inl he', rfl⟩
    · rintro ⟨he' | rfl, rfl⟩
      · exact .inr ⟨fun hid => hfree e' (h.stores_iff.mpr ⟨he', hid⟩), he', rfl⟩
      · exact .inl ⟨rfl, rfl⟩
  distinct := by
    refine List.pairwise_append.mpr ⟨h.distinct, List.pairwise_singleton _ _, ?_⟩
    intro a ha b hb hid
    obtain rfl := List.mem_singleton.mp hb
    exact hfree a (h.stores_iff.mpr ⟨ha, hid⟩)
  storable := by
    intro e' he'
    rcases List.mem_append.mp he' with he' | he'
    · exact h.storable e' he'
    · exact List.mem_singleton.mp he' ▸ he

/-- An event under the id of another one takes its place. -/
theorem replace (h : s.Holds es) (he : e.IsStorable) (hheld : ∃ other, s.Stores e.id other) :
    (s.put e).Holds (es.map fun x => if x.id = e.id then e else x) where
  stores_iff := by
    intro id e'
    rw [stores_put, h.stores_iff, List.mem_map]
    constructor
    · rintro (⟨rfl, rfl⟩ | ⟨hne, he', rfl⟩)
      · obtain ⟨other, ho⟩ := hheld
        obtain ⟨ho, hid⟩ := h.stores_iff.mp ho
        exact ⟨⟨other, ho, if_pos hid⟩, rfl⟩
      · exact ⟨⟨e', he', if_neg hne⟩, rfl⟩
    · rintro ⟨⟨x, hx, rfl⟩, rfl⟩
      by_cases hid : x.id = e.id
      · rw [if_pos hid]
        exact .inl ⟨rfl, rfl⟩
      · rw [if_neg hid]
        exact .inr ⟨hid, hx, rfl⟩
  distinct := by
    have hsame : ∀ x : Event, (if x.id = e.id then e else x).id = x.id := by
      intro x
      split
      · next hid => exact hid.symm
      · rfl
    refine List.pairwise_map.mpr (h.distinct.imp fun {a b} hne => ?_)
    rwa [hsame, hsame]
  storable := by
    intro e' he'
    obtain ⟨x, hx, rfl⟩ := List.mem_map.mp he'
    split
    · exact he
    · exact h.storable x hx

/-- Some events are kept. -/
theorem filter (h : s.Holds es) {p : Event → Bool}
    (hs : ∀ {id e}, s'.Stores id e ↔ s.Stores id e ∧ p e = true) : s'.Holds (es.filter p) where
  stores_iff := by
    intro id e
    rw [hs, h.stores_iff, List.mem_filter]
    exact and_right_comm
  distinct := h.distinct.filter p
  storable := by
    intro e he
    exact h.storable e (List.mem_filter.mp he).1

theorem remove (h : s.Holds es) (id : String) :
    (s.remove id).Holds (es.filter fun e => !(e.id == id)) := by
  refine h.filter fun {id' e} => ?_
  rw [stores_remove, h.stores_iff, Bool.not_eq_true', beq_eq_false_iff_ne]
  constructor
  · rintro ⟨hne, he, rfl⟩
    exact ⟨⟨he, rfl⟩, hne⟩
  · rintro ⟨⟨he, rfl⟩, hne⟩
    exact ⟨hne, he, rfl⟩

theorem purge (h : s.Holds es) (cutoff : Instant) :
    (s.purge cutoff).Holds (es.filter fun e => !e.endedBefore cutoff) := by
  refine h.filter fun {id e} => ?_
  rw [stores_purge, Bool.not_eq_true']

/-- As many events are removed as have the property of those that are not kept. -/
theorem size_sub (h : s.Holds es) {p : Event → Bool} (h' : s'.Holds (es.filter fun e => !p e)) :
    s.size - s'.size = es.countP p := by
  have hsplit := List.length_eq_countP_add_countP p (l := es)
  have hkept : (es.filter fun e => !p e).length = es.countP fun e => decide ¬ p e = true := by
    rw [← List.countP_eq_length_filter]
    exact List.countP_congr fun e _ => by simp
  have hlength := h.length_eq
  have hlength' := h'.length_eq
  omega

end Holds

/-! ### One operation on both sides -/

section Simulation

open Sole

variable {s : MemoryStore} {es : List Event} {op : StoreOperation} {α β : Type}

/-- The answers of the two stores agree, and both have the same events afterwards. -/
def Simulates (s : MemoryStore) (op : StoreOperation) (memory : Except StoreError α × MemoryStore)
    (database : Option (Except StoreError α) × Sole) : Prop :=
  ∃ answer es, database = (some answer, resting (.ofEvents es)) ∧ memory.2.Holds es ∧
    Agree s op memory.1 answer

theorem Agree.map {a b : Except StoreError α} (h : Agree s op a b) (f : α → β) :
    Agree s op (a.map f) (b.map f) := by
  cases h with
  | ok a => exact .ok (f a)
  | notFound id => exact .notFound id
  | alreadyExists id => exact .alreadyExists id
  | conflictOverlap he ho ho' => exact .conflictOverlap he ho ho'

theorem Simulates.map {memory : Except StoreError α × MemoryStore} {d : Dialogue (Except StoreError α)}
    {x : Sole} (h : Simulates s op memory (d.run answer x)) (f : α → β) :
    Simulates s op (memory.1.map f, memory.2)
      (((fun r : Except StoreError α => r.map f) <$> d).run answer x) := by
  obtain ⟨a, es, hrun, hes, hagree⟩ := h
  rw [Dialogue.run_map, hrun]
  exact ⟨a.map f, es, rfl, hes, hagree.map f⟩

theorem create_simulates (h : s.Holds es) (fresh : String) {e : Event} (he : e.IsStorable) :
    Simulates s (.create fresh e) (s.create fresh e)
      ((DatabaseStore.create fresh e).run answer (resting (.ofEvents es))) := by
  have he' := he.identified fresh
  rcases DatabaseStore.run_create_cases fresh (Table.ofEvents es) rfl
      (EventRow.isValid_ofEvent he') with
    ⟨hhas, hrun⟩ | ⟨hnot, r, hr, howner, hid, hmeets, hrun⟩ | ⟨hnot, hclear, hrun⟩
  · obtain ⟨other, ho⟩ := h.has_iff.mp hhas
    rw [create_of_stores ho, hrun]
    exact ⟨_, es, rfl, h, .alreadyExists _⟩
  · obtain ⟨other', ho', hid'⟩ := h.excludes_of_row he' hr howner hid hmeets
    rw [hrun, hid']
    rcases s.create_cases fresh e with ⟨other, ho, _⟩ | ⟨id, other, ho, hc, hcreate⟩ | ⟨_, ha, _⟩
    · exact absurd ho (h.not_stores hnot other)
    · rw [hcreate]
      exact ⟨_, es, rfl, h, .conflictOverlap rfl (h.excludes ho hc) ho'⟩
    · exact absurd ha ho'.not_admits
  · have hfree := h.not_stores hnot
    have hadmits := (h.clearFor_iff he').mp hclear
    rw [create_of_admits hfree hadmits, hrun, Table.insert_ofEvents]
    exact ⟨_, _, rfl, h.put he' hfree, .ok _⟩

theorem update_simulates (h : s.Holds es) {e : Event} (he : e.IsStorable) :
    Simulates s (.update e) (s.update e)
      ((DatabaseStore.update e).run answer (resting (.ofEvents es))) := by
  rcases DatabaseStore.run_update_cases e (Table.ofEvents es) (EventRow.isValid_ofEvent he) with
    ⟨hnot, hrun⟩ | ⟨hhas, r, hr, howner, hid, hmeets, hrun⟩ | ⟨hhas, hclear, hrun⟩
  · rw [update_of_not_stores (h.not_stores hnot), hrun]
    exact ⟨_, es, rfl, h, .notFound _⟩
  · obtain ⟨other', ho', hid'⟩ := h.excludes_of_row he hr howner hid hmeets
    rw [hrun, hid']
    rcases s.update_cases e with ⟨hfree, _⟩ | ⟨id, other, ho, hc, hupdate⟩ | ⟨_, ha, _⟩
    · obtain ⟨other, ho⟩ := h.has_iff.mp hhas
      exact absurd ho (hfree other)
    · rw [hupdate]
      exact ⟨_, es, rfl, h, .conflictOverlap rfl (h.excludes ho hc) ho'⟩
    · exact absurd ha ho'.not_admits
  · have hheld := h.has_iff.mp hhas
    have hadmits := (h.clearFor_iff he).mp hclear
    rw [update_of_admits hheld hadmits, hrun, Table.replace_ofEvents]
    exact ⟨_, _, rfl, h.replace he hheld, .ok _⟩

theorem delete_simulates (h : s.Holds es) (id : String) :
    Simulates s (.delete id) (s.delete id)
      ((DatabaseStore.delete id).run answer (resting (.ofEvents es))) := by
  rcases DatabaseStore.run_delete_cases id (Table.ofEvents es) with ⟨hnot, hrun⟩ | ⟨hhas, hrun⟩
  · rcases s.delete_cases id with ⟨_, hdelete⟩ | ⟨⟨e, he⟩, _⟩
    · rw [hdelete, hrun]
      exact ⟨_, es, rfl, h, .notFound id⟩
    · exact absurd he (h.not_stores hnot e)
  · rcases s.delete_cases id with ⟨hfree, _⟩ | ⟨_, hdelete⟩
    · obtain ⟨e, he⟩ := h.has_iff.mp hhas
      exact absurd he (hfree e)
    · rw [hdelete, hrun, h.isKeyed.apply_removals, Table.filter_ofEvents fun _ _ => rfl]
      exact ⟨_, _, rfl, h.remove id, .ok ()⟩

theorem deleteOlderThan_simulates (h : s.Holds es) {cutoff : Instant} (hcutoff : cutoff.IsStorable) :
    Simulates s (.deleteOlderThan cutoff) (s.deleteOlderThan cutoff)
      ((DatabaseStore.deleteOlderThan cutoff).run answer (resting (.ofEvents es))) := by
  have hended : ∀ e ∈ es, decide ((EventRow.ofEvent e).endTime < microsOf cutoff) =
      e.endedBefore cutoff := by
    intro e he
    exact EventRow.endedBefore_ofEvent (h.storable e he) hcutoff
  have hkept := h.purge cutoff
  have hmemory : s.deleteOlderThan cutoff =
      (.ok (es.countP fun e => e.endedBefore cutoff), s.purge cutoff) := by
    rw [← h.size_sub hkept]
    rfl
  have hrows : ∀ e ∈ es, (!decide ((EventRow.ofEvent e).endTime < microsOf cutoff)) =
      !e.endedBefore cutoff := by
    intro e he
    rw [hended e he]
  rw [hmemory, DatabaseStore.run_deleteOlderThan, h.isKeyed.apply_removals,
    Table.countP_ofEvents hended, Table.filter_ofEvents hrows]
  exact ⟨_, _, rfl, hkept, .ok _⟩

theorem get_simulates (h : s.Holds es) (id : String) :
    Simulates s (.get id) (s.get id, s)
      ((DatabaseStore.get id).run answer (resting (.ofEvents es))) := by
  rcases DatabaseStore.run_get_cases id (Table.ofEvents es) with ⟨hnot, hrun⟩ | ⟨r, hr, hid, hrun⟩
  · rw [get_of_not_stores (h.not_stores hnot), hrun]
    exact ⟨_, es, rfl, h, .notFound id⟩
  · obtain ⟨e, he, rfl⟩ := Table.mem_ofEvents.mp hr
    rw [get_of_stores (h.stores_iff.mpr ⟨he, hid⟩), hrun, EventRow.eventOfRow_ofEvent (h.storable e he)]
    exact ⟨_, es, rfl, h, .ok e⟩

/-- A query whose test on rows is the test on events in memory lists the same events. -/
theorem select_simulates (h : s.Holds es) {q : Query} {parameters : List Value}
    {test : EventRow → Bool} {p : Event → Bool}
    (hout : q.outcome parameters (.ofEvents es) =
      ((Table.sorted ((Table.ofEvents es).filter test)).found, []))
    (htest : ∀ e ∈ es, test (.ofEvent e) = p e) :
    Simulates s op (.ok (s.collect p), s)
      ((DatabaseStore.select q parameters).run answer (resting (.ofEvents es))) := by
  have hstorable : ∀ e ∈ es.filter p, e.IsStorable := by
    intro e he
    exact h.storable e (List.mem_filter.mp he).1
  have hlisted : ∀ e ∈ s.collect p, e.IsStorable := by
    intro e he
    rw [← h.sort_filter] at he
    exact hstorable e (List.mem_mergeSort.mp he)
  rw [Table.filter_ofEvents htest, Table.sorted_ofEvents hstorable, h.sort_filter] at hout
  rw [DatabaseStore.run_select hout, Table.ofEvents, EventRow.mapM_eventOfRow hlisted]
  exact ⟨_, es, rfl, h, .ok _⟩

theorem list_simulates (h : s.Holds es) :
    Simulates s .list (.ok (s.collect fun _ => true), s)
      ((DatabaseStore.select .selectEvents []).run answer (resting (.ofEvents es))) := by
  have hall : (Table.ofEvents es).filter (fun _ => true) = Table.ofEvents es :=
    List.filter_eq_self.mpr fun _ _ => rfl
  have hout : Query.outcome .selectEvents [] (.ofEvents es) =
      ((Table.sorted ((Table.ofEvents es).filter fun _ => true)).found, []) := by
    rw [hall]
    rfl
  exact select_simulates h hout fun _ _ => rfl

theorem listByUser_simulates (h : s.Holds es) (userId : String) :
    Simulates s (.listByUser userId) (.ok (s.collect fun e => e.userId == userId), s)
      ((DatabaseStore.select .selectEventsOfUser [.text userId]).run answer
        (resting (.ofEvents es))) :=
  select_simulates h rfl fun _ _ => rfl

theorem listByUserInRange_simulates (h : s.Holds es) (userId : String) {first last : Instant}
    (hfirst : first.IsStorable) (hlast : last.IsStorable) :
    Simulates s (.listByUserInRange userId first last)
      (.ok (s.collect fun e => e.userId == userId && e.intersectsRange first last), s)
      ((DatabaseStore.select .selectEventsOfUserInRange
        [.text userId, .ofInstant first, .ofInstant last]).run answer
        (resting (.ofEvents es))) := by
  refine select_simulates h rfl ?_
  intro e he
  have hrange := EventRow.intersectsRange_ofEvent (h.storable e he) hfirst hlast
  exact congrArg (e.userId == userId && ·) hrange

theorem listDueBefore_simulates (h : s.Holds es) {now before : Instant} (hnow : now.IsStorable)
    (hbefore : before.IsStorable) :
    Simulates s (.listDueBefore now before) (.ok (s.collect fun e => e.isDue now before), s)
      ((DatabaseStore.select .selectDueEvents [.ofInstant now, .ofInstant before]).run answer
        (resting (.ofEvents es))) := by
  refine select_simulates h rfl ?_
  intro e he
  exact EventRow.isDue_ofEvent (h.storable e he) hnow hbefore

/-- **One operation on both sides.**  If both stores have the same events, the operation is answered
in the same way and leaves both with the same events. -/
theorem perform_simulates (h : s.Holds es) {op : StoreOperation} (hop : op.IsStorable) :
    Simulates s op (store.perform op s)
      ((DatabaseStore.store.perform op).run answer (resting (.ofEvents es))) := by
  cases op with
  | create fresh e => exact (create_simulates h fresh hop).map _
  | update e => exact (update_simulates h hop).map _
  | delete id => exact (delete_simulates h id).map _
  | deleteOlderThan cutoff => exact (deleteOlderThan_simulates h hop).map _
  | get id => exact (get_simulates h id).map _
  | list => exact (list_simulates h).map _
  | listByUser userId => exact (listByUser_simulates h userId).map _
  | listByUserInRange userId first last =>
      exact (listByUserInRange_simulates h userId hop.1 hop.2).map _
  | listDueBefore now before => exact (listDueBefore_simulates h hop.1 hop.2).map _

end Simulation

end MemoryStore

/-! ### Any operations on both sides -/

namespace DatabaseStore

/-- The answer to an operation of a sole client and the database after it. -/
def perform (x : Sole) (op : StoreOperation) :
    Option (Except StoreError StoreAnswer) × Sole :=
  (store.perform op).run Sole.answer x

/-- The database after some operations of a sole client in turn. -/
def afterAll (x : Sole) (ops : List StoreOperation) : Sole :=
  ops.foldl (fun x op => (perform x op).2) x

end DatabaseStore

namespace MemoryStore

/-- Both stores have the same events after the same operations. -/
theorem Holds.afterAll {s : MemoryStore} {es : List Event} (h : s.Holds es)
    {ops : List StoreOperation} (hops : ∀ op ∈ ops, op.IsStorable) :
    ∃ es', (s.afterAll ops).Holds es' ∧
      DatabaseStore.afterAll (.resting (.ofEvents es)) ops = .resting (.ofEvents es') := by
  induction ops generalizing s es with
  | nil => exact ⟨es, h, rfl⟩
  | cons op ops ih =>
      obtain ⟨a, es', hrun, hes', _⟩ := perform_simulates h (hops op List.mem_cons_self)
      obtain ⟨es'', hes'', hafter⟩ := ih hes' fun op' h' => hops op' (List.mem_cons_of_mem _ h')
      refine ⟨es'', hes'', ?_⟩
      rw [← hafter, DatabaseStore.afterAll, List.foldl_cons, DatabaseStore.perform, hrun]
      rfl

/-- **The two stores agree.**  After any operations on storable events and times, asked of both
stores in turn, the database has a row for each event that the store in memory holds and no other
row, and the next operation gets answers that agree. -/
theorem stores_agree (ops : List StoreOperation) (op : StoreOperation)
    (hops : ∀ op' ∈ ops, op'.IsStorable) (hop : op.IsStorable) :
    (∀ r, r ∈ (DatabaseStore.afterAll (.resting []) ops).table ↔
        ∃ id e, (empty.afterAll ops).Stores id e ∧ EventRow.ofEvent e = r) ∧
      ∃ answer, (DatabaseStore.perform (DatabaseStore.afterAll (.resting []) ops) op).1 =
          some answer ∧
        Agree (empty.afterAll ops) op (store.perform op (empty.afterAll ops)).1 answer := by
  obtain ⟨es, hes, hafter⟩ := Holds.empty.afterAll hops
  have hdatabase : DatabaseStore.afterAll (.resting []) ops = .resting (.ofEvents es) := hafter
  obtain ⟨a, es', hrun, _, hagree⟩ := perform_simulates hes hop
  rw [hdatabase]
  refine ⟨fun r => ?_, a, congrArg Prod.fst hrun, hagree⟩
  constructor
  · intro hr
    obtain ⟨e, he, hrow⟩ := Table.mem_ofEvents.mp hr
    exact ⟨e.id, e, hes.stores he, hrow⟩
  · rintro ⟨id, e, he, hrow⟩
    exact Table.mem_ofEvents.mpr ⟨e, (hes.stores_iff.mp he).1, hrow⟩

/-- Two meetings of one user; the later one has the lesser id. -/
def busyHistory : List StoreOperation :=
  [.create "b" (sampleEvent "" "u1" 0 3600), .create "a" (sampleEvent "" "u1" 5400 7200)]

/-- A third meeting that overlaps both. -/
def crowding : StoreOperation :=
  .create "c" (sampleEvent "" "u1" 1800 6000)

theorem busyHistory_stores_agree :
    (∀ op ∈ busyHistory, op.IsStorable) ∧ crowding.IsStorable ∧
      (∀ r, r ∈ (DatabaseStore.afterAll (.resting []) busyHistory).table ↔
        ∃ id e, (empty.afterAll busyHistory).Stores id e ∧ EventRow.ofEvent e = r) ∧
      ∃ answer, (DatabaseStore.perform (DatabaseStore.afterAll (.resting []) busyHistory)
          crowding).1 = some answer ∧
        Agree (empty.afterAll busyHistory) crowding
          (store.perform crowding (empty.afterAll busyHistory)).1 answer := by
  have hops : ∀ op ∈ busyHistory, op.IsStorable := by decide
  have hop : crowding.IsStorable := by decide
  exact ⟨hops, hop, stores_agree busyHistory crowding hops hop⟩

/-- The store in memory names the first meeting by id, the database the first by start. -/
example :
    (store.perform crowding (empty.afterAll busyHistory)).1 =
        .error (.conflictOverlap "c" "a") ∧
      (DatabaseStore.perform (DatabaseStore.afterAll (.resting []) busyHistory) crowding).1 =
        some (.error (.conflictOverlap "c" "b")) := by
  constructor
  · cbv
  · cbv

end MemoryStore

end Reminders
