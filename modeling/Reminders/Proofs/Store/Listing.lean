import Reminders.Proofs.Store.History

/-!
# Store — listings

A listing names the stored events of some property in the order of their starts, and by id where
the start is the same.  Since stored events have distinct ids, this order is strict: no event comes
twice.

* `WellKept.lists_collectAmong`: what a well-kept store lists, in whatever order it looks through
  its events.
* `Lists.eq_of_same`: stores that hold the same events list them in the same way.
-/

namespace Reminders

/-- The event comes before the other one in listings. -/
def Event.Precedes (a b : Event) : Prop :=
  a.startTime < b.startTime ∨ a.startTime = b.startTime ∧ a.id < b.id

theorem Event.Precedes.asymm {a b : Event} (h : a.Precedes b) : ¬ b.Precedes a := by
  rintro (hlt | ⟨heq, hid⟩)
  · rcases h with hlt' | ⟨heq, _⟩
    · exact Int.lt_asymm hlt hlt'
    · exact Int.lt_irrefl _ (heq ▸ hlt)
  · rcases h with hlt | ⟨_, hid'⟩
    · exact Int.lt_irrefl _ (heq ▸ hlt)
    · exact String.lt_asymm hid hid'

theorem Event.listedBefore_iff {a b : Event} :
    a.listedBefore b = true ↔
      a.startTime < b.startTime ∨ a.startTime = b.startTime ∧ a.id ≤ b.id := by
  simp [listedBefore]

theorem Event.listedBefore_trans (a b c : Event) (hab : a.listedBefore b = true)
    (hbc : b.listedBefore c = true) : a.listedBefore c = true := by
  rw [listedBefore_iff] at hab hbc ⊢
  rcases hab with hab | ⟨hab, hab'⟩
  · rcases hbc with hbc | ⟨hbc, _⟩
    · exact .inl (Int.lt_trans hab hbc)
    · exact .inl (hbc ▸ hab)
  · rcases hbc with hbc | ⟨hbc, hbc'⟩
    · exact .inl (hab ▸ hbc)
    · exact .inr ⟨hab.trans hbc, String.le_trans hab' hbc'⟩

theorem Event.listedBefore_total (a b : Event) : (a.listedBefore b || b.listedBefore a) = true := by
  rw [Bool.or_eq_true, listedBefore_iff, listedBefore_iff]
  rcases Int.lt_trichotomy a.startTime.rank b.startTime.rank with h | h | h
  · exact .inl (.inl h)
  · rcases String.le_total a.id b.id with hid | hid
    · exact .inl (.inr ⟨Instant.ext_rank h, hid⟩)
    · exact .inr (.inr ⟨(Instant.ext_rank h).symm, hid⟩)
  · exact .inr (.inl h)

/-- The order of listings tells apart events of different ids. -/
theorem Event.id_eq_of_listedBefore {a b : Event} (hab : a.listedBefore b = true)
    (hba : b.listedBefore a = true) : a.id = b.id := by
  rw [listedBefore_iff] at hab hba
  rcases hab with hlt | ⟨heq, hid⟩
  · rcases hba with hlt' | ⟨heq, _⟩
    · exact absurd hlt' (Int.lt_asymm hlt)
    · exact absurd (heq ▸ hlt) (Int.lt_irrefl _)
  · rcases hba with hlt | ⟨_, hid'⟩
    · exact absurd (heq ▸ hlt) (Int.lt_irrefl _)
    · exact String.le_antisymm hid hid'

namespace MemoryStore

/-- The events are those stored with a property, in the order of listings and without repetition. -/
structure Lists (s : MemoryStore) (p : Event → Bool) (es : List Event) : Prop where
  sorted : es.Pairwise Event.Precedes
  mem_iff : ∀ e, e ∈ es ↔ (∃ id, s.Stores id e) ∧ p e = true

/-- Events that lie under their own ids have distinct ids. -/
theorem pairwise_values_of_keyed {s : MemoryStore} (hs : ∀ {id e}, s.Stores id e → e.id = id) :
    s.values.Pairwise fun a b => a.id ≠ b.id := by
  refine List.pairwise_map.mpr (List.Pairwise.imp_of_mem (fun {a b} ha hb hne => ?_)
    Std.ExtTreeMap.distinct_keys_toList)
  have hstores : ∀ {x : String × Event}, x ∈ s.events.toList → x.2.id = x.1 := fun hx =>
    hs (Std.ExtTreeMap.mem_toList_iff_getElem?_eq_some.mp hx)
  rw [hstores ha, hstores hb]
  rwa [Std.LawfulEqCmp.compare_eq_iff_eq] at hne

/-- The stored events with a property, in the order of listings, where they are looked through in
the given order. -/
def collectAmong (stored : List Event) (p : Event → Bool) : List Event :=
  Event.sort (stored.filter p)

/-- A well-kept store lists each event once, in whatever order it looks through its events. -/
theorem WellKept.lists_collectAmong {s : MemoryStore} (hs : s.WellKept) {stored : List Event}
    (hstored : stored.Perm s.values) (p : Event → Bool) : s.Lists p (collectAmong stored p) where
  sorted := by
    have hsorted : (collectAmong stored p).Pairwise fun a b => a.listedBefore b = true :=
      List.pairwise_mergeSort Event.listedBefore_trans Event.listedBefore_total _
    have hperm : (s.values.filter p).Perm (collectAmong stored p) :=
      (hstored.symm.filter p).trans (List.mergeSort_perm _ _).symm
    have hdistinct : (collectAmong stored p).Pairwise fun a b => a.id ≠ b.id :=
      ((pairwise_values_of_keyed hs.keyed).filter p).perm hperm Ne.symm
    -- The order of listings is not strict by itself; it is on events of distinct ids.
    refine (hsorted.and hdistinct).imp fun {a b} ⟨hle, hne⟩ => ?_
    rcases Event.listedBefore_iff.mp hle with hlt | ⟨heq, hid⟩
    · exact .inl hlt
    · exact .inr ⟨heq, String.not_le.mp fun hge => hne (String.le_antisymm hid hge)⟩
  mem_iff _ := by
    rw [collectAmong, Event.sort, List.mem_mergeSort, List.mem_filter, hstored.mem_iff, mem_values]

theorem WellKept.lists_collect {s : MemoryStore} (hs : s.WellKept) (p : Event → Bool) :
    s.Lists p (s.collect p) :=
  hs.lists_collectAmong (.refl _) p

namespace Lists

variable {s s' : MemoryStore} {p : Event → Bool} {es es' : List Event}

theorem nodup (h : s.Lists p es) : es.Nodup := by
  refine h.sorted.imp ?_
  rintro e _ hlt rfl
  exact hlt.asymm hlt

/-- Stores that hold the same events list them in the same way. -/
theorem eq_of_same (h : s.Lists p es) (h' : s'.Lists p es')
    (hsame : ∀ e, (∃ id, s.Stores id e) ↔ ∃ id, s'.Stores id e) : es = es' := by
  have hperm : es.Perm es' := (List.perm_ext_iff_of_nodup h.nodup h'.nodup).mpr fun e => by
    rw [h.mem_iff, h'.mem_iff, hsame]
  exact hperm.eq_of_pairwise (fun _ _ _ _ hab hba => absurd hba hab.asymm) h.sorted h'.sorted

end Lists

end MemoryStore

end Reminders
