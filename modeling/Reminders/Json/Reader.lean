/-!
# Json — readers

A reader takes a value from the front of a sequence of bytes and leaves the rest.  Reading is a
single pass from left to right, so the fault reported is the first one met: the text is malformed,
it ends too early, or it is well formed so far but of another shape than the value asked for.
-/

namespace Reminders

/-- The content of a message or of a request. -/
abbrev Bytes := List UInt8

/-- The bytes of a text in the encoding UTF-8. -/
def bytesOf (s : String) : Bytes :=
  s.toByteArray.data.toList

/-- The text that the bytes encode, if they are valid UTF-8. -/
def textOf? (bytes : Bytes) : Option String :=
  String.fromUTF8? ⟨bytes.toArray⟩

/-- The bytes of a text encode that text. -/
theorem textOf?_bytesOf (s : String) : textOf? (bytesOf s) = some s := by
  have h : (⟨(bytesOf s).toArray⟩ : ByteArray) = s.toByteArray := by simp [bytesOf]
  rw [textOf?, h, String.fromUTF8?, dif_pos s.isValidUTF8]
  rfl

namespace Json

/-- What is wrong at the first place where reading fails. -/
inductive Fault where
  /-- The text breaks the rules of the format. -/
  | malformed
  /-- The text ends inside a value. -/
  | truncated
  /-- The text is well formed so far, but not the value asked for. -/
  | mismatched
deriving DecidableEq, Repr

/-- A step that takes a value from the front of the input. -/
abbrev Reader := StateT Bytes (Except Fault)

/-- The bytes that may stand between the tokens. -/
def isSpace (b : UInt8) : Bool :=
  b == 0x20 || b == 0x0A || b == 0x0D || b == 0x09

/-- The input after leading space. -/
def skipSpace (input : Bytes) : Bytes :=
  input.dropWhile isSpace

/-- The first byte after space, which stays in the input. -/
def peek : Reader (Option UInt8) := fun input =>
  let rest := skipSpace input
  .ok (rest.head?, rest)

/-- The first byte after space; the input must not end here. -/
def peekToken : Reader UInt8 := do
  match ← peek with
  | some b => return b
  | none => throw .truncated

/-- Drops one byte. -/
def drop : Reader Unit := fun input =>
  .ok ((), input.tail)

/-- Takes the given bytes. -/
def literal : Bytes → Reader Unit
  | [] => pure ()
  | expected :: more => fun input =>
    match input with
    | [] => .error .truncated
    | b :: rest => if b = expected then literal more rest else .error .malformed

/-- Reads a whole input: after the value only space may follow. -/
def Reader.run {α : Type} (reader : Reader α) (input : Bytes) : Except Fault α := do
  let (value, rest) ← StateT.run reader input
  if (skipSpace rest).isEmpty then return value else throw .malformed

/-- Reads a value at the front of an input, whatever follows it. -/
def Reader.front {α : Type} (reader : Reader α) (input : Bytes) : Except Fault α :=
  (StateT.run reader input).map Prod.fst

end Json

end Reminders
