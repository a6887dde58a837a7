/-!
# Text — words between marks

A text is cut at every occurrence of a mark.  There is always one word more than there are marks,
so the empty text is one empty word.
-/

namespace Reminders.Text

/-- The words of a list of characters, cut at every `mark`. -/
def wordsOf (mark : Char) : List Char → List (List Char)
  | [] => [[]]
  | c :: cs =>
    if c = mark then [] :: wordsOf mark cs
    else match wordsOf mark cs with
      | [] => [[c]]
      | word :: words => (c :: word) :: words

/-- The words of a text, cut at every `mark`. -/
def words (mark : Char) (s : String) : List String :=
  (wordsOf mark s.toList).map String.ofList

/-- The characters before the first `mark` and those after it, if there is one. -/
def cutAt (mark : Char) : List Char → List Char × Option (List Char)
  | [] => ([], none)
  | c :: cs =>
    if c = mark then ([], some cs)
    else
      let (before, after) := cutAt mark cs
      (c :: before, after)

theorem wordsOf_ne_nil (mark : Char) (cs : List Char) : wordsOf mark cs ≠ [] := by
  cases cs with
  | nil => simp [wordsOf]
  | cons c cs =>
    simp only [wordsOf]
    split
    · simp
    · split <;> simp

end Reminders.Text
