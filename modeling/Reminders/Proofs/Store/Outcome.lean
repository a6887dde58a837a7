import Reminders.Proofs.Store.History

/-!
# Store — the outcomes of writing

An event *clashes* with what is stored under an id if this belongs to the same user and the two
share an instant.  In a reachable store an event is added exactly if its id is free and it clashes
with nothing, and it is replaced exactly if it is stored and clashes with nothing but itself.  The
stored events may be looked through in any order for this: the order only decides which of several
clashes is reported.

* `WellKept.admits_iff`: what it takes to be written.
* `Ends.writes`: the outcomes of writing one event.
* `writing_is_exact`: those of all operations that write.
-/

namespace Reminders.MemoryStore

variable {α : Type} {s : MemoryStore} {e : Event}

/-- Under the id there is an event of the same user that shares an instant with the event. -/
def Clashes (s : MemoryStore) (e : Event) (id : String) : Prop :=
  ∃ other, s.Stores id other ∧ other.userId = e.userId ∧
    e.startTime < other.endTime ∧ other.startTime < e.endTime

/-- Each stored event that excludes another one clashes with it under its own id. -/
theorem WellKept.conflictsWith_iff (hs : s.WellKept) {id : String} {other : Event}
    (ho : s.Stores id other) :
    e.conflictsWith other = true ↔ other.id ≠ e.id ∧ s.Clashes e other.id := by
  obtain rfl := hs.keyed ho
  rw [Event.conflictsWith_iff, Event.overlaps_iff]
  constructor
  · rintro ⟨hu, hid, hshared⟩
    exact ⟨hid, other, ho, hu, hshared⟩
  · rintro ⟨hid, other', ho', hu, hshared⟩
    obtain rfl := ho'.unique ho
    exact ⟨hu, hid, hshared⟩

/-- An event is admitted unless it clashes with another one. -/
theorem WellKept.admits_iff (hs : s.WellKept) :
    s.Admits e ↔ ∀ id, id ≠ e.id → ¬ s.Clashes e id := by
  constructor
  · rintro ha id hid hclash
    have ⟨other, ho, _⟩ := hclash
    obtain rfl := hs.keyed ho
    have hc := (hs.conflictsWith_iff ho).mpr ⟨hid, hclash⟩
    rw [ha _ _ ho] at hc
    cases hc
  · intro h id other ho
    rw [← Bool.not_eq_true, hs.conflictsWith_iff ho]
    exact fun ⟨hid, hclash⟩ => h other.id hid hclash

/-- What comes of writing an event that must be `ready` for it. -/
structure Writes (s : MemoryStore) (e : Event) (ready : Prop) (refusal : StoreError) (answer : α)
    (r : Except StoreError α × MemoryStore) : Prop where
  /-- It is written exactly if it is ready and clashes with no other event. -/
  ok_iff : (∃ a, r.1 = .ok a) ↔ ready ∧ ∀ id, id ≠ e.id → ¬ s.Clashes e id
  /-- It is then stored as it is, and everything else as before. -/
  stores_iff : ∀ a, r.1 = .ok a → a = answer ∧ ∀ id other, r.2.Stores id other ↔
    id = e.id ∧ other = e ∨ id ≠ e.id ∧ s.Stores id other
  /-- Whatever it clashes with, it is refused exactly if it is not ready. -/
  refused_iff : r.1 = .error refusal ↔ ¬ ready
  /-- Otherwise a clash is reported exactly if there is one. -/
  conflict_iff : (∃ id other, r.1 = .error (.conflictOverlap id other)) ↔
    ready ∧ ∃ id, id ≠ e.id ∧ s.Clashes e id
  /-- The report names the event and another one with which it does clash. -/
  conflict : ∀ id other, r.1 = .error (.conflictOverlap id other) →
    id = e.id ∧ other ≠ e.id ∧ s.Clashes e other
  /-- An event that is not written changes nothing. -/
  unchanged : ∀ error, r.1 = .error error → r.2 = s

theorem Ends.writes {ready : Prop} {refusal : StoreError} {answer : α}
    {r : Except StoreError α × MemoryStore} (h : s.Ends e ready refusal answer r) (hs : s.WellKept)
    (hrefusal : ∀ id other, refusal ≠ .conflictOverlap id other) :
    s.Writes e ready refusal answer r := by
  cases h with
  | refused hnot =>
      exact {
        ok_iff := iff_of_false nofun fun h => hnot h.1
        stores_iff := nofun
        refused_iff := iff_of_true rfl hnot
        conflict_iff := iff_of_false (fun ⟨id, other, h⟩ => hrefusal id other (Except.error.inj h))
          fun h => hnot h.1
        conflict := fun id other h => absurd (Except.error.inj h) (hrefusal id other)
        unchanged := fun _ _ => rfl }
  | excluded hready ho hc =>
      obtain ⟨hid, hclash⟩ := (hs.conflictsWith_iff ho).mp hc
      exact {
        ok_iff := iff_of_false nofun fun h => h.2 _ hid hclash
        stores_iff := nofun
        refused_iff := iff_of_false (fun h => hrefusal _ _ (Except.error.inj h).symm)
          fun hnot => hnot hready
        conflict_iff := iff_of_true ⟨_, _, rfl⟩ ⟨hready, _, hid, hclash⟩
        conflict := fun _ _ h => by
          cases h
          exact ⟨rfl, hid, hclash⟩
        unchanged := fun _ _ => rfl }
  | written hready ha =>
      have hfree := hs.admits_iff.mp ha
      exact {
        ok_iff := iff_of_true ⟨_, rfl⟩ ⟨hready, hfree⟩
        stores_iff := fun a h => ⟨(Except.ok.inj h).symm, fun _ _ => stores_put⟩
        refused_iff := iff_of_false nofun fun hnot => hnot hready
        conflict_iff := iff_of_false nofun fun ⟨_, id, hid, hclash⟩ => hfree id hid hclash
        conflict := nofun
        unchanged := nofun }

/-- What is stored after writing an event does not depend on the order in which the stored events
were looked through. -/
theorem Ends.stored_eq {ready : Prop} {refusal : StoreError} {answer : α}
    {r r' : Except StoreError α × MemoryStore} (h : s.Ends e ready refusal answer r)
    (h' : s.Ends e ready refusal answer r') : r.2 = r'.2 := by
  cases h with
  | refused hnot =>
      cases h' with
      | refused _ | excluded _ _ _ => rfl
      | written hready _ => exact absurd hready hnot
  | excluded hready ho hc =>
      cases h' with
      | refused _ | excluded _ _ _ => rfl
      | written _ ha =>
          rw [ha _ _ ho] at hc
          cases hc
  | written hready ha =>
      cases h' with
      | refused hnot => exact absurd hready hnot
      | excluded _ ho hc =>
          rw [ha _ _ ho] at hc
          cases hc
      | written _ _ => rfl

/-- What comes of removing the event under an id. -/
structure Removes (s : MemoryStore) (id : String) (r : Except StoreError Unit × MemoryStore) :
    Prop where
  /-- It is removed exactly if there is one. -/
  ok_iff : r.1 = .ok () ↔ ∃ e, s.Stores id e
  /-- Everything else then stays as before. -/
  stores_iff : r.1 = .ok () → ∀ id' e, r.2.Stores id' e ↔ id' ≠ id ∧ s.Stores id' e
  /-- The only error is that there is none, and it changes nothing. -/
  unchanged : ∀ error, r.1 = .error error → error = .notFound id ∧ r.2 = s

theorem removes_delete (s : MemoryStore) (id : String) : s.Removes id (s.delete id) := by
  rcases s.delete_cases id with ⟨hfree, h⟩ | ⟨hheld, h⟩
  · rw [h]
    exact {
      ok_iff := iff_of_false nofun fun ⟨e, he⟩ => hfree e he
      stores_iff := nofun
      unchanged := fun _ h => ⟨(Except.error.inj h).symm, rfl⟩ }
  · rw [h]
    exact {
      ok_iff := iff_of_true rfl hheld
      stores_iff := fun _ _ _ => stores_remove
      unchanged := nofun }

/-- **Writing is exact.**  Let a store be reachable, and let its events be looked through in any
order.

An event is added exactly if its id, or the fresh one if it has none, is free and the event clashes
with nothing; it is then stored under this id, and otherwise as it is.  An event is replaced exactly
if it is stored and clashes with nothing under another id, and an event is removed exactly if it is
stored.  Nothing else ever changes, and nothing at all after an error.  A taken or a missing id is
reported before any clash; a reported clash names the event and one with which it does clash. -/
theorem writing_is_exact (hs : s.Reachable) {stored : List Event} (hstored : stored.Perm s.values) :
    (∀ fresh e,
      e.identified fresh = { e with id := if e.id = "" then fresh else e.id } ∧
      ((∃ id, (s.createAmong stored fresh e).1 = .ok id) ↔
        (∀ other, ¬ s.Stores (e.identified fresh).id other) ∧
          ∀ id, ¬ s.Clashes (e.identified fresh) id) ∧
      s.Writes (e.identified fresh) (∀ other, ¬ s.Stores (e.identified fresh).id other)
        (.alreadyExists (e.identified fresh).id) (e.identified fresh).id
        (s.createAmong stored fresh e) ∧
      (s.createAmong stored fresh e).2 = (s.create fresh e).2) ∧
    (∀ e,
      s.Writes e (∃ other, s.Stores e.id other) (.notFound e.id) () (s.updateAmong stored e) ∧
      (s.updateAmong stored e).2 = (s.update e).2) ∧
    ∀ id, s.Removes id (s.delete id) := by
  refine ⟨fun fresh e => ?_, fun e => ?_, s.removes_delete⟩
  · have hends := createAmong_ends hstored fresh e
    have hwrites := hends.writes hs.wellKept fun _ _ h => by cases h
    refine ⟨?_, ?_, hwrites, hends.stored_eq (createAmong_ends (.refl _) fresh e)⟩
    · rw [Event.identified]
      by_cases hid : e.id = ""
      · rw [if_pos (by rw [hid]; rfl), if_pos hid]
      · rw [if_neg (by simpa using hid), if_neg hid]
    · rw [hwrites.ok_iff]
      -- Nothing is stored under the id of the event, so every clash is with another one.
      refine and_congr_right fun hfree => forall_congr' fun id => ⟨fun h hclash => ?_,
        fun h _ => h⟩
      refine h ?_ hclash
      rintro rfl
      obtain ⟨other, ho, _⟩ := hclash
      exact hfree other ho
  · have hends := updateAmong_ends hstored e
    exact ⟨hends.writes hs.wellKept (fun _ _ h => by cases h),
      hends.stored_eq (updateAmong_ends (.refl _) e)⟩

/-- Two hours of one user, one after the other. -/
def twoHours : MemoryStore :=
  (empty.put (sampleEvent "a" "u1" 0 3600)).put (sampleEvent "b" "u1" 3600 7200)

theorem stores_twoHours_iff {id : String} :
    twoHours.Stores id e ↔ id = "a" ∧ e = sampleEvent "a" "u1" 0 3600 ∨
      id = "b" ∧ e = sampleEvent "b" "u1" 3600 7200 := by
  rw [twoHours, stores_put, stores_put]
  constructor
  · rintro (h | ⟨_, h | ⟨_, h⟩⟩)
    · exact .inr h
    · exact .inl h
    · exact absurd h not_stores_empty
  · rintro (⟨rfl, rfl⟩ | h)
    · exact .inr ⟨by decide, .inl ⟨rfl, rfl⟩⟩
    · exact .inl h

theorem reachable_twoHours : twoHours.Reachable := by
  have hfirst : empty.create "a" (sampleEvent "" "u1" 0 3600) =
      (.ok "a", empty.put (sampleEvent "a" "u1" 0 3600)) :=
    create_of_admits (fun _ => not_stores_empty) fun _ _ h => absurd h not_stores_empty
  have hsecond : (empty.put (sampleEvent "a" "u1" 0 3600)).create "b"
      (sampleEvent "" "u1" 3600 7200) = (.ok "b", twoHours) := by
    refine create_of_admits (fun other h => ?_) fun id other h => ?_ <;>
      rcases stores_put.mp h with ⟨hid, rfl⟩ | ⟨_, h⟩
    · exact absurd hid (by decide)
    · exact not_stores_empty h
    · decide
    · exact absurd h not_stores_empty
  have hrun : empty.afterAll [.create "a" (sampleEvent "" "u1" 0 3600),
      .create "b" (sampleEvent "" "u1" 3600 7200)] =
      ((empty.create "a" (sampleEvent "" "u1" 0 3600)).2.create "b"
        (sampleEvent "" "u1" 3600 7200)).2 :=
    rfl
  rw [hfirst, hsecond] at hrun
  exact ⟨_, by simp [StoreOperation.MintsId], hrun⟩

/-- Looked through from the end, the two hours exclude an event across both and admit the hour after
them; the second one may be prolonged, and neither may be prolonged into the other. -/
theorem twoHours_written_exactly :
    twoHours.Reachable ∧ twoHours.values.reverse.Perm twoHours.values ∧
      (∃ id other, (twoHours.createAmong twoHours.values.reverse "c"
        (sampleEvent "" "u1" 1800 5400)).1 = .error (.conflictOverlap id other)) ∧
      (∃ id, (twoHours.createAmong twoHours.values.reverse "c"
        (sampleEvent "" "u1" 7200 9000)).1 = .ok id) ∧
      (∃ a, (twoHours.updateAmong twoHours.values.reverse
        (sampleEvent "b" "u1" 3600 9000)).1 = .ok a) ∧
      (∀ other, (twoHours.updateAmong twoHours.values.reverse
        (sampleEvent "b" "u1" 1800 7200)).1 = .error (.conflictOverlap "b" other) →
          other = "a") ∧
      (twoHours.createAmong twoHours.values.reverse "c" (sampleEvent "a" "u1" 0 3600)).1 =
        .error (.alreadyExists "a") ∧
      (twoHours.delete "a").1 = .ok () := by
  have hperm := List.reverse_perm twoHours.values
  obtain ⟨hcreate, hupdate, hdelete⟩ := writing_is_exact reachable_twoHours hperm
  have ha : twoHours.Stores "a" (sampleEvent "a" "u1" 0 3600) :=
    stores_twoHours_iff.mpr (.inl ⟨rfl, rfl⟩)
  have hb : twoHours.Stores "b" (sampleEvent "b" "u1" 3600 7200) :=
    stores_twoHours_iff.mpr (.inr ⟨rfl, rfl⟩)
  have hfree : ∀ other, ¬ twoHours.Stores "c" other := fun other h => by
    rcases stores_twoHours_iff.mp h with ⟨hid, _⟩ | ⟨hid, _⟩ <;> exact absurd hid (by decide)
  refine ⟨reachable_twoHours, hperm, ?_, ?_, ?_, ?_, ?_, ?_⟩
  · exact (hcreate "c" (sampleEvent "" "u1" 1800 5400)).2.2.1.conflict_iff.mpr
      ⟨hfree, "a", by decide, _, ha, rfl, by decide, by decide⟩
  · refine (hcreate "c" (sampleEvent "" "u1" 7200 9000)).2.1.mpr ⟨hfree, ?_⟩
    rintro id ⟨other, ho, _, hstart, _⟩
    rcases stores_twoHours_iff.mp ho with ⟨_, rfl⟩ | ⟨_, rfl⟩ <;>
      exact absurd hstart (by decide)
  · refine (hupdate (sampleEvent "b" "u1" 3600 9000)).1.ok_iff.mpr ⟨⟨_, hb⟩, ?_⟩
    rintro id hid ⟨other, ho, _, hstart, _⟩
    rcases stores_twoHours_iff.mp ho with ⟨_, rfl⟩ | ⟨rfl, _⟩
    · exact absurd hstart (by decide)
    · exact absurd rfl hid
  · intro other hconflict
    obtain ⟨_, hother, e, he, _⟩ :=
      (hupdate (sampleEvent "b" "u1" 1800 7200)).1.conflict _ _ hconflict
    rcases stores_twoHours_iff.mp he with ⟨rfl, _⟩ | ⟨rfl, _⟩
    · rfl
    · exact absurd rfl hother
  · exact (hcreate "c" (sampleEvent "a" "u1" 0 3600)).2.2.1.refused_iff.mpr fun h => h _ ha
  · exact (hdelete "a").ok_iff.mpr ⟨_, ha⟩

end Reminders.MemoryStore
