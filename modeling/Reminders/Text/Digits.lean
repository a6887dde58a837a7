import Reminders.Number.Width
import Reminders.Text.Blank

/-!
# Text — decimal digits

Numbers are written in decimal without leading zeros, or with leading zeros up to a fixed width.
Reading takes digits from the front of a list of characters and returns the rest.
-/

namespace Reminders.Text

/-- The digits of a number, most significant first. -/
def digits (n : Nat) : List Char :=
  Nat.toDigits 10 n

/-- The digits of an integer, after a minus sign if it is negative. -/
def signedDigits : Int → List Char
  | .ofNat n => digits n
  | .negSucc n => '-' :: digits (n + 1)

/-- The digits of a number, with zeros in front up to the given width. -/
def padded (width n : Nat) : List Char :=
  List.replicate (width - (digits n).length) '0' ++ digits n

/-- Takes up to `limit` digits, at least one, and returns their value and the rest. -/
def readNat (limit : Nat) (cs : List Char) : Option (Nat × List Char) :=
  let taken := (cs.take limit).takeWhile Char.isDigit
  if taken.isEmpty then none else some (Nat.ofDigitChars 10 taken 0, cs.drop taken.length)

/-- Reads a whole text of digits. -/
def nat? (cs : List Char) : Option Nat :=
  if cs.isEmpty || !cs.all Char.isDigit then none else some (Nat.ofDigitChars 10 cs 0)

/-- Reads a whole text as a natural number below `bound`; a plus sign may stand in front. -/
def natBelow? (bound : Nat) (s : String) : Option Nat :=
  let body := match s.toList with
    | '+' :: cs => cs
    | cs => cs
  (nat? body).filter (· < bound)

/-- Reads a whole text as an integer of 64 bits; one sign may stand in front. -/
def int64? (s : String) : Option Int :=
  let value : Option Int := match s.toList with
    | '-' :: cs => (nat? cs).map fun n => -(n : Int)
    | '+' :: cs => (nat? cs).map Int.ofNat
    | cs => (nat? cs).map Int.ofNat
  value.filter fun n => -(bound63 : Int) ≤ n && n < bound63

/-- Every character of a written number is a digit. -/
theorem isDigit_of_mem_digits {n : Nat} {c : Char} (h : c ∈ digits n) : c.isDigit = true :=
  Nat.isDigit_of_mem_toDigits (by decide) (by decide) h

end Reminders.Text
