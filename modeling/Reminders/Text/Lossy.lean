import Reminders.Json.Reader

/-!
# Text — bytes that may not be text

Bytes are read as UTF-8.  Where they are not valid, the longest piece that could have begun a
character, or else a single byte, is read as the replacement character U+FFFD.
-/

namespace Reminders.Text

/-- The byte may follow the first byte of a character. -/
def isContinuation (b : UInt8) : Bool :=
  0x80 ≤ b && b ≤ 0xBF

/-- The number of bytes of a character and the range of its second byte, by its first byte; none
if no character begins so. -/
def sequenceOf? (first : UInt8) : Option (Nat × UInt8 × UInt8) :=
  if first < 0x80 then some (1, 0x80, 0xBF)
  else if first < 0xC2 then none
  else if first < 0xE0 then some (2, 0x80, 0xBF)
  else if first = 0xE0 then some (3, 0xA0, 0xBF)
  else if first = 0xED then some (3, 0x80, 0x9F)
  else if first < 0xF0 then some (3, 0x80, 0xBF)
  else if first = 0xF0 then some (4, 0x90, 0xBF)
  else if first < 0xF4 then some (4, 0x80, 0xBF)
  else if first = 0xF4 then some (4, 0x80, 0x8F)
  else none

/-- The number of bytes after the first that continue its character. -/
def continuing (first : UInt8) (rest : Bytes) : Nat :=
  match sequenceOf? first with
  | none => 0
  | some (size, low, high) =>
    match rest.take (size - 1) with
    | [] => 0
    | second :: more =>
      if low ≤ second ∧ second ≤ high then (more.takeWhile isContinuation).length + 1 else 0

/-- The characters of some bytes.  Each of the `fuel` rounds takes at least one byte. -/
def lossyChars : Nat → Bytes → List Char
  | 0, _ => []
  | _, [] => []
  | fuel + 1, first :: rest =>
    let n := continuing first rest
    let piece := (textOf? (first :: rest.take n)).getD "\uFFFD"
    piece.toList ++ lossyChars fuel (rest.drop n)

/-- The text of some bytes. -/
def lossy (bytes : Bytes) : String :=
  String.ofList (lossyChars bytes.length bytes)

end Reminders.Text
