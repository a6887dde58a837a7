import Reminders.Text.Words

/-!
# Text — the cut into words

At a given mark a text has exactly one cut: words without the mark that are the text again once the
mark stands between them.

* `isCut_iff`: the words of a text are its cut.
-/

namespace Reminders.Text

variable {mark : Char} {s : String} {ws : List String}

/-- A cut of the text at the mark:
* there is at least one word;
* no word holds the mark;
* the words with the mark between them are the text. -/
structure IsCut (mark : Char) (s : String) (ws : List String) : Prop where
  ne_nil : ws ≠ []
  unmarked : ∀ w ∈ ws, mark ∉ w.toList
  joined : (String.singleton mark).intercalate ws = s

theorem wordsOf_eq_splitOn (mark : Char) (cs : List Char) : wordsOf mark cs = cs.splitOn mark := by
  induction cs with
  | nil => rfl
  | cons c cs ih =>
      rw [List.splitOn_cons_eq_if_modifyHead, ← ih, wordsOf]
      by_cases hc : c = mark
      · simp [hc]
      · rw [if_neg hc, if_neg (by simpa using hc)]
        cases hw : wordsOf mark cs with
        | nil => exact absurd hw (wordsOf_ne_nil mark cs)
        | cons w ws => rfl

theorem not_mem_of_mem_wordsOf {cs w : List Char} (h : w ∈ wordsOf mark cs) : mark ∉ w := by
  induction cs generalizing w with
  | nil => simp_all [wordsOf]
  | cons c cs ih =>
      simp only [wordsOf] at h
      by_cases hc : c = mark
      · rw [if_pos hc] at h
        rcases List.mem_cons.mp h with rfl | h
        · exact List.not_mem_nil
        · exact ih h
      · rw [if_neg hc] at h
        cases hw : wordsOf mark cs with
        | nil => exact absurd hw (wordsOf_ne_nil mark cs)
        | cons v vs =>
            simp only [hw] at h ih
            rcases List.mem_cons.mp h with rfl | h
            · simp only [List.mem_cons, not_or]
              exact ⟨fun hm => hc hm.symm, ih List.mem_cons_self⟩
            · exact ih (List.mem_cons_of_mem _ h)

theorem isCut_words (mark : Char) (s : String) : IsCut mark s (words mark s) where
  ne_nil := by simp [words, wordsOf_ne_nil]
  unmarked := by
    intro w hw
    obtain ⟨cs, hcs, rfl⟩ := List.mem_map.mp hw
    rw [String.toList_ofList]
    exact not_mem_of_mem_wordsOf hcs
  joined := by
    have hlists : (words mark s).map String.toList = s.toList.splitOn mark := by
      rw [← wordsOf_eq_splitOn, words, List.map_map]
      simp [Function.comp_def]
    rw [← String.toList_inj, String.toList_intercalate, hlists, String.toList_singleton]
    exact List.intercalate_splitOn mark

/-- **The words of a text are its cut.** -/
theorem isCut_iff : IsCut mark s ws ↔ words mark s = ws := by
  refine ⟨fun h => ?_, fun h => h ▸ isCut_words mark s⟩
  have hchars : s.toList = [mark].intercalate (ws.map String.toList) := by
    rw [← h.joined, String.toList_intercalate, String.toList_singleton]
  have hsplit : s.toList.splitOn mark = ws.map String.toList := by
    rw [hchars]
    refine List.splitOn_intercalate mark ?_ (by simpa using h.ne_nil)
    simpa using h.unmarked
  rw [words, wordsOf_eq_splitOn, hsplit, List.map_map]
  simp [Function.comp_def]

end Reminders.Text
