import Mathlib.Data.List.Forall2
import Reminders.Bus.Topic
import Reminders.Proofs.Text.Words

/-!
# Bus — which keys a pattern matches

Each word of a pattern takes a block of the words of a key: `#` takes any block, `*` takes any one
word, and every other word takes itself.  A key matches a pattern if its words fall into such
blocks, one for each word of the pattern, in order.

* `matchesWords_cons`: what the first word of a pattern may take.
* `isMatch_iff_blocks`: the keys that match a pattern.
-/

namespace Reminders.Topic

/-- A word of a pattern takes a block of the words of a key. -/
inductive Takes : String → List String → Prop where
  | any (block : List String) : Takes "#" block
  | one (word : String) : Takes "*" [word]
  | self (word : String) : Takes word [word]

theorem mem_suffixes {α : Type} {xs ys : List α} : ys ∈ suffixes xs ↔ ys <:+ xs := by
  induction xs with
  | nil => simp [suffixes]
  | cons x xs ih => rw [suffixes, List.mem_cons, ih, List.suffix_cons_iff]

/-- Only `#` takes no word, or more than one. -/
theorem Takes.singleton {word : String} {block : List String} (h : Takes word block)
    (hword : word ≠ "#") : ∃ head, block = [head] ∧ (word = "*" ∨ word = head) := by
  cases h with
  | any => exact absurd rfl hword
  | one head => exact ⟨head, rfl, .inl rfl⟩
  | self => exact ⟨word, rfl, .inr rfl⟩

/-- The first word of a pattern takes a block at the front of the key, and the rest of the key
matches the rest of the pattern. -/
theorem matchesWords_cons {word : String} {pattern key : List String} :
    matchesWords (word :: pattern) key = true ↔
      ∃ block rest, Takes word block ∧ matchesWords pattern rest = true ∧ block ++ rest = key := by
  by_cases hword : word = "#"
  · subst hword
    simp only [matchesWords, if_true, List.any_eq_true, mem_suffixes]
    constructor
    · rintro ⟨rest, ⟨block, hkey⟩, hrest⟩
      exact ⟨block, rest, .any block, hrest, hkey⟩
    · rintro ⟨block, rest, -, hrest, hkey⟩
      exact ⟨rest, ⟨block, hkey⟩, hrest⟩
  · constructor
    · intro h
      cases key with
      | nil => simp [matchesWords, hword] at h
      | cons head tail =>
          simp only [matchesWords, if_neg hword, Bool.and_eq_true, Bool.or_eq_true,
            decide_eq_true_eq] at h
          obtain ⟨rfl | rfl, htail⟩ := h
          · exact ⟨[head], tail, .one head, htail, rfl⟩
          · exact ⟨[word], tail, .self word, htail, rfl⟩
    · rintro ⟨block, rest, htakes, hrest, rfl⟩
      obtain ⟨head, rfl, hhead⟩ := htakes.singleton hword
      simp [matchesWords, hword, hhead, hrest]

/-- The words of a key match a pattern if they fall into blocks that its words take. -/
theorem matchesWords_iff {pattern key : List String} :
    matchesWords pattern key = true ↔
      ∃ blocks, List.Forall₂ Takes pattern blocks ∧ blocks.flatten = key := by
  induction pattern generalizing key with
  | nil =>
      rw [matchesWords, List.isEmpty_iff]
      constructor
      · rintro rfl
        exact ⟨[], .nil, rfl⟩
      · rintro ⟨blocks, hblocks, rfl⟩
        cases hblocks
        rfl
  | cons word pattern ih =>
      rw [matchesWords_cons]
      constructor
      · rintro ⟨block, rest, htakes, hrest, rfl⟩
        obtain ⟨blocks, hblocks, rfl⟩ := ih.mp hrest
        exact ⟨block :: blocks, .cons htakes hblocks, List.flatten_cons⟩
      · rintro ⟨blocks, hblocks, rfl⟩
        cases hblocks with
        | cons htakes hblocks =>
            exact ⟨_, _, htakes, ih.mpr ⟨_, hblocks, rfl⟩, List.flatten_cons.symm⟩

/-- **The keys that match a pattern.**  Cut the pattern and the key at their dots.  The key matches
exactly if its words are consecutive blocks, one for each word of the pattern, each of which that
word takes. -/
theorem isMatch_iff_blocks (pattern key : String) :
    isMatch pattern key = true ↔
      ∃ patternWords keyWords blocks, Text.IsCut '.' pattern patternWords ∧
        Text.IsCut '.' key keyWords ∧ List.Forall₂ Takes patternWords blocks ∧
        blocks.flatten = keyWords := by
  simp only [isMatch, matchesWords_iff, Text.isCut_iff]
  constructor
  · rintro ⟨blocks, htakes, hkey⟩
    exact ⟨_, _, blocks, rfl, rfl, htakes, hkey⟩
  · rintro ⟨_, _, blocks, rfl, rfl, htakes, hkey⟩
    exact ⟨blocks, htakes, hkey⟩

example : isMatch "#.b.#" "a.b" = true ∧ isMatch "*" "" = true ∧ isMatch "a" "*" = false := by
  decide

end Reminders.Topic
