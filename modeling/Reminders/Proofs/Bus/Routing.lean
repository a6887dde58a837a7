import Reminders.Bus.Channel
import Reminders.Proofs.Bus.Topic

/-!
# Bus — routing

The queues of some bindings are listed by name, each once.  So a message is routed once to each
queue that has a binding whose pattern matches its key.

* `mem_route`: the queues that get a message.
* `nodup_route`: none gets it twice.
* `isMatch_hash`: every key matches the pattern that consists of the word `#` alone.
-/

namespace Reminders

/-! ### Sorted names -/

theorem mem_insertSorted {s t : String} {names : List String} :
    t ∈ insertSorted s names ↔ t = s ∨ t ∈ names := by
  induction names with
  | nil => simp [insertSorted]
  | cons name names ih =>
      simp only [insertSorted]
      split
      · simp
      · split
        · next heq => subst heq; simp
        · simp only [List.mem_cons, ih]
          exact or_left_comm

theorem pairwise_insertSorted {names : List String} (h : names.Pairwise (· < ·)) (s : String) :
    (insertSorted s names).Pairwise (· < ·) := by
  induction names with
  | nil => exact List.pairwise_singleton _ _
  | cons name names ih =>
      obtain ⟨hname, hnames⟩ := List.pairwise_cons.mp h
      simp only [insertSorted]
      split
      · next hlt =>
          refine List.pairwise_cons.mpr ⟨fun t ht => ?_, h⟩
          rcases List.mem_cons.mp ht with rfl | ht'
          · exact hlt
          · exact String.lt_trans hlt (hname t ht')
      · next hlt =>
          split
          · exact h
          · next hne =>
              refine List.pairwise_cons.mpr ⟨fun t ht => ?_, ih hnames⟩
              rcases mem_insertSorted.mp ht with rfl | ht'
              · exact Decidable.byContradiction fun hge => hne (String.le_antisymm hge hlt)
              · exact hname t ht'

theorem mem_queuesOf {queue : String} {bindings : List Binding} :
    queue ∈ queuesOf bindings ↔ ∃ b ∈ bindings, b.queue = queue := by
  induction bindings with
  | nil => simp [queuesOf]
  | cons b bindings ih =>
      have hcons : queuesOf (b :: bindings) = insertSorted b.queue (queuesOf bindings) := rfl
      rw [hcons, mem_insertSorted, ih]
      simp [eq_comm]

theorem pairwise_queuesOf (bindings : List Binding) : (queuesOf bindings).Pairwise (· < ·) := by
  induction bindings with
  | nil => exact List.Pairwise.nil
  | cons b bindings ih => exact pairwise_insertSorted ih b.queue

/-! ### Routes -/

theorem mem_route {bindings : List Binding} {key queue : String} :
    queue ∈ route bindings key ↔
      ∃ b ∈ bindings, Topic.isMatch b.pattern key = true ∧ b.queue = queue := by
  simp [route, mem_queuesOf, and_assoc]

theorem nodup_route (bindings : List Binding) (key : String) : (route bindings key).Nodup := by
  refine List.Pairwise.imp ?_ (pairwise_queuesOf _)
  rintro a _ hlt rfl
  exact String.lt_irrefl a hlt

theorem Topic.isMatch_hash (key : String) : isMatch "#" key = true := by
  have hwords : Text.words '.' "#" = ["#"] := by decide
  simp only [isMatch, hwords, matchesWords, if_true, List.any_eq_true]
  exact ⟨[], mem_suffixes.mpr List.nil_suffix, rfl⟩

end Reminders
