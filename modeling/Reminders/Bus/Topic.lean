import Reminders.Text.Words

/-!
# Bus — topics

A routing key is a sequence of words with dots between them.  In a pattern the word `*` stands for
any one word and the word `#` for any number of words, none included; every other word stands for
itself.  Both are ordinary words in a key.
-/

namespace Reminders.Topic

/-- The list itself and what remains after each of its elements. -/
def suffixes {α : Type} : List α → List (List α)
  | [] => [[]]
  | x :: xs => (x :: xs) :: suffixes xs

/-- The words of a key match the words of a pattern. -/
def matchesWords : List String → List String → Bool
  | [], key => key.isEmpty
  | word :: pattern, key =>
    if word = "#" then (suffixes key).any (matchesWords pattern)
    else match key with
      | [] => false
      | head :: tail => (word = "*" || word = head) && matchesWords pattern tail

/-- The key matches the pattern. -/
def isMatch (pattern key : String) : Bool :=
  matchesWords (Text.words '.' pattern) (Text.words '.' key)

end Reminders.Topic
