import Reminders.Proofs.Store.Listing
import Reminders.Proofs.Store.Outcome
import Reminders.Proofs.Text.Bytes

/-!
# Store — listings show nothing but the stored events

A map may hand out its entries in any order, and this order may depend on how the map came about.  A
store is *built* if some operations lead to it from the empty store, each of which looks through the
stored events in an order of its own.  Neither these orders nor the history can be told from a
listing: it shows the stored events that it asks for, each once, by start and then by the bytes of
the id.

* `built_iff_reachable`: which stores are built does not depend on the orders.
* `perform_walking_listing`: every listing sorts a selection of the stored events.
* `listings_are_determined`: what the listings of a built store show.
-/

namespace Reminders

namespace StoreOperation

/-- The operation returns a list of events. -/
def IsListing : StoreOperation → Prop
  | .list | .listByUser _ | .listByUserInRange .. | .listDueBefore .. => True
  | _ => False

/-- The listing asks for the event: for any one, for one of its user, for one that shares an instant
with a range of time, or for one that has not started and whose notice falls into a window. -/
inductive AsksFor (e : Event) : StoreOperation → Prop where
  | list : AsksFor e .list
  | listByUser : AsksFor e (.listByUser e.userId)
  | listByUserInRange {first last : Instant} (hfirst : first < e.endTime)
      (hlast : e.startTime < last) : AsksFor e (.listByUserInRange e.userId first last)
  | listDueBefore {now before t : Instant} (ht : e.notifyAt = some t) (hstart : now < e.startTime)
      (hnow : now < t) (hbefore : t ≤ before) : AsksFor e (.listDueBefore now before)

end StoreOperation

theorem Event.isDue_iff_exists {e : Event} {now before : Instant} :
    e.isDue now before = true ↔
      ∃ t, e.notifyAt = some t ∧ now < e.startTime ∧ now < t ∧ t ≤ before := by
  rw [isDue]
  cases e.notifyAt <;> simp [and_assoc]

namespace MemoryStore

variable {s s' : MemoryStore} {stored stored' : List Event} {op : StoreOperation}

/-- The store in memory, where the stored events are looked through in the given order. -/
def walking (stored : List Event) : EventStore (StateM MemoryStore) where
  create fresh e := fun s => createAmong stored fresh e s
  update e := fun s => updateAmong stored e s
  delete id := fun s => delete id s
  deleteOlderThan cutoff := fun s => deleteOlderThan cutoff s
  get id := fun s => (get id s, s)
  list := fun s => (.ok (collectAmong stored fun _ => true), s)
  listByUser userId := fun s => (.ok (collectAmong stored fun e => e.userId == userId), s)
  listByUserInRange userId first last := fun s =>
    (.ok (collectAmong stored fun e => e.userId == userId && e.intersectsRange first last), s)
  listDueBefore now before := fun s => (.ok (collectAmong stored fun e => e.isDue now before), s)

/-! ### What is built -/

/-- Some operations lead from the empty store to this one, each of which looks through the stored
events in an order of its own. -/
inductive Built : MemoryStore → Prop where
  | empty : Built empty
  | step {s : MemoryStore} {op : StoreOperation} {stored : List Event} (hs : Built s)
      (hop : op.MintsId) (hstored : stored.Perm s.values) :
      Built ((walking stored).perform op s).2

/-- What an operation leaves behind does not depend on the order. -/
theorem perform_walking_snd (hstored : stored.Perm s.values) (op : StoreOperation) :
    ((walking stored).perform op s).2 = s.after op := by
  cases op with
  | create fresh e =>
      exact (createAmong_ends hstored fresh e).stored_eq (createAmong_ends (.refl _) fresh e)
  | update e => exact (updateAmong_ends hstored e).stored_eq (updateAmong_ends (.refl _) e)
  | delete _ | deleteOlderThan _ | get _ | list | listByUser _ | listByUserInRange _ _ _
  | listDueBefore _ _ => rfl

theorem Reachable.after (h : s.Reachable) (hop : op.MintsId) : (s.after op).Reachable := by
  obtain ⟨ops, hops, rfl⟩ := h
  refine ⟨ops ++ [op], ?_, List.foldl_append⟩
  rw [List.forall_mem_append, List.forall_mem_singleton]
  exact ⟨hops, hop⟩

theorem Built.afterAll {ops : List StoreOperation} (hs : s.Built) (hops : ∀ op ∈ ops, op.MintsId) :
    (s.afterAll ops).Built := by
  induction ops generalizing s with
  | nil => exact hs
  | cons op ops ih =>
      have hstep := hs.step (hops op List.mem_cons_self) (.refl _)
      rw [perform_walking_snd (.refl _)] at hstep
      exact ih hstep fun op' h => hops op' (List.mem_cons_of_mem _ h)

theorem built_iff_reachable : s.Built ↔ s.Reachable := by
  constructor
  · intro hs
    induction hs with
    | empty => exact ⟨[], List.forall_mem_nil _, rfl⟩
    | step _ hop hstored ih =>
        rw [perform_walking_snd hstored]
        exact ih.after hop
  · rintro ⟨ops, hops, rfl⟩
    exact Built.empty.afterAll hops

/-! ### What is listed -/

/-- Every listing sorts a selection of the stored events, and changes nothing. -/
theorem perform_walking_listing (hop : op.IsListing) :
    ∃ p : Event → Bool, (∀ e, p e = true ↔ op.AsksFor e) ∧ ∀ stored s,
      (walking stored).perform op s = (.ok (.events (collectAmong stored p)), s) := by
  cases op with
  | list => exact ⟨_, fun e => iff_of_true rfl .list, fun _ _ => rfl⟩
  | listByUser userId =>
      refine ⟨_, fun e => ?_, fun _ _ => rfl⟩
      rw [beq_iff_eq]
      constructor
      · rintro rfl
        exact .listByUser
      · rintro ⟨⟩
        rfl
  | listByUserInRange userId first last =>
      refine ⟨_, fun e => ?_, fun _ _ => rfl⟩
      rw [Bool.and_eq_true, beq_iff_eq, Event.intersectsRange_iff]
      constructor
      · rintro ⟨rfl, hfirst, hlast⟩
        exact .listByUserInRange hfirst hlast
      · rintro ⟨⟩
        next hfirst hlast => exact ⟨rfl, hfirst, hlast⟩
  | listDueBefore now before =>
      refine ⟨_, fun e => ?_, fun _ _ => rfl⟩
      rw [Event.isDue_iff_exists]
      constructor
      · rintro ⟨t, ht, hstart, hnow, hbefore⟩
        exact .listDueBefore ht hstart hnow hbefore
      · rintro ⟨⟩
        next t ht hstart hnow hbefore => exact ⟨t, ht, hstart, hnow, hbefore⟩
  | create _ _ | update _ | delete _ | deleteOlderThan _ | get _ => cases hop

/-- **Listings show nothing but the stored events.**  Let two stores that hold the same events be
built by any operations, and let each look through its events in any order.  Both answer a listing
by the same events: those of the stored events that the listing asks for, each once, strictly
increasing by start and then by the bytes of the id. -/
theorem listings_are_determined (hs : s.Built) (hs' : s'.Built)
    (hsame : ∀ e, (∃ id, s.Stores id e) ↔ ∃ id, s'.Stores id e)
    (hstored : stored.Perm s.values) (hstored' : stored'.Perm s'.values) (hop : op.IsListing) :
    ∃ es, (walking stored).perform op s = (.ok (.events es), s) ∧
      (walking stored').perform op s' = (.ok (.events es), s') ∧
      es.Pairwise (fun a b => a.startTime < b.startTime ∨
        a.startTime = b.startTime ∧ bytesOf a.id < bytesOf b.id) ∧
      es.Nodup ∧ ∀ e, e ∈ es ↔ (∃ id, s.Stores id e) ∧ op.AsksFor e := by
  obtain ⟨p, hp, hperform⟩ := perform_walking_listing hop
  have hlists := (built_iff_reachable.mp hs).wellKept.lists_collectAmong hstored p
  have hlists' := (built_iff_reachable.mp hs').wellKept.lists_collectAmong hstored' p
  refine ⟨_, hperform stored s, ?_, ?_, hlists.nodup, fun e => ?_⟩
  · rw [hperform, hlists.eq_of_same hlists' hsame]
  · refine hlists.sorted.imp fun hlt => ?_
    rwa [bytesOf_lt_iff]
  · rw [hlists.mem_iff, hp]

/-- Two events of different users that start at the same time, added one after the other. -/
def addedInTurn : List StoreOperation :=
  [.create "x" (sampleEvent "b" "u2" 0 1800), .create "y" (sampleEvent "a" "u1" 0 3600)]

/-- The same two events at the end of a longer history: one of them is moved, and the other one
takes the place of a third one. -/
def addedAndMoved : List StoreOperation :=
  [.create "x" (sampleEvent "a" "u1" 3600 7200), .create "c" (sampleEvent "" "u2" 0 3600),
    .update (sampleEvent "a" "u1" 0 3600), .delete "c", .create "y" (sampleEvent "b" "u2" 0 1800)]

/-- Whichever history led to them and in whatever order they are looked through, the two events are
listed by their ids. -/
theorem tiedEvents_are_determined :
    (empty.afterAll addedInTurn).Built ∧ (empty.afterAll addedAndMoved).Built ∧
      (∀ e, (∃ id, (empty.afterAll addedInTurn).Stores id e) ↔
        ∃ id, (empty.afterAll addedAndMoved).Stores id e) ∧
      (walking (empty.afterAll addedInTurn).values.reverse).perform .list
          (empty.afterAll addedInTurn) =
        (.ok (.events [sampleEvent "a" "u1" 0 3600, sampleEvent "b" "u2" 0 1800]),
          empty.afterAll addedInTurn) ∧
      (walking (empty.afterAll addedAndMoved).values).perform .list (empty.afterAll addedAndMoved) =
        (.ok (.events [sampleEvent "a" "u1" 0 3600, sampleEvent "b" "u2" 0 1800]),
          empty.afterAll addedAndMoved) := by
  have hs : (empty.afterAll addedInTurn).Built :=
    Built.empty.afterAll (by simp [addedInTurn, StoreOperation.MintsId])
  have hs' : (empty.afterAll addedAndMoved).Built :=
    Built.empty.afterAll (by simp [addedAndMoved, StoreOperation.MintsId])
  have hvalues : (empty.afterAll addedInTurn).values =
      [sampleEvent "a" "u1" 0 3600, sampleEvent "b" "u2" 0 1800] := by
    decide +kernel
  have hvalues' : (empty.afterAll addedAndMoved).values =
      [sampleEvent "a" "u1" 0 3600, sampleEvent "b" "u2" 0 1800] := by
    decide +kernel
  have hsame : ∀ e, (∃ id, (empty.afterAll addedInTurn).Stores id e) ↔
      ∃ id, (empty.afterAll addedAndMoved).Stores id e := fun e => by
    rw [← mem_values, ← mem_values, hvalues, hvalues']
  have hlist : StoreOperation.list.IsListing := trivial
  obtain ⟨es, hes, hes', _⟩ :=
    listings_are_determined hs hs' hsame (List.reverse_perm _) (.refl _) hlist
  have hlisted : collectAmong (empty.afterAll addedAndMoved).values (fun _ => true) =
      [sampleEvent "a" "u1" 0 3600, sampleEvent "b" "u2" 0 1800] := by
    rw [hvalues']
    exact List.mergeSort_of_pairwise (by decide)
  obtain rfl : collectAmong _ _ = es :=
    StoreAnswer.events.inj (Except.ok.inj (congrArg Prod.fst hes'))
  rw [hlisted] at hes hes'
  exact ⟨hs, hs', hsame, hes, hes'⟩

end MemoryStore

end Reminders
