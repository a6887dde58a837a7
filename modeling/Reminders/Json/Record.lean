import Reminders.Json.Value

/-!
# Json — records

A record is read from an object or from an array of its fields in order.  The fields gather in a
*draft*, in which each may still be missing; the record is the finished draft.  In an object the
fields come in any order, a field that comes twice is refused before its value is read, and members
of other names are skipped.  An array may end early, but holds nothing after the last field.

A record is written as an object without space.
-/

namespace Reminders.Json

/-- A field of a record whose drafts are of type `δ`. -/
structure Field (δ : Type) where
  name : String
  /-- The draft has the field already. -/
  isSet : δ → Bool
  /-- Reads the value of the field into the draft. -/
  read : δ → Reader δ

/-- The field that `get` and `set` access in the draft. -/
def Field.of {δ β : Type} (name : String) (get : δ → Option β) (set : δ → β → δ)
    (value : Reader β) : Field δ where
  name := name
  isSet draft := (get draft).isSome
  read draft := set draft <$> value

/-- How a record of type `α` is read. -/
structure Record (δ α : Type) where
  /-- The fields, in their order. -/
  fields : List (Field δ)
  /-- The draft without any field. -/
  blank : δ
  /-- The record of a draft, if no required field is missing. -/
  finish : δ → Option α

namespace Record

variable {δ α : Type}

/-- The record of a draft. -/
def complete (record : Record δ α) (draft : δ) : Reader α :=
  match record.finish draft with
  | some value => pure value
  | none => throw .mismatched

/-- Takes the opening quote of a member's name. -/
def openName : Reader Unit := do
  match ← peekToken with
  | 0x22 => drop
  | _ => throw .malformed

/-- Takes the comma between two members or elements. -/
def takeComma : Reader Unit := do
  match ← peekToken with
  | 0x2C => drop
  | _ => throw .malformed

/-- Reads one member after the opening quote of its name. -/
def readMember (record : Record δ α) (draft : δ) : Reader δ := do
  let name ← readTextBody
  match record.fields.find? fun field => field.name = name with
  | some field =>
    if field.isSet draft then throw .mismatched
    readColon
    field.read draft
  | none =>
    readColon
    skipValue
    return draft

/-- Reads the members of an object up to its end.  Each of the `fuel` rounds takes at least one
byte. -/
def readMembers (record : Record δ α) : Nat → Bool → δ → Reader α
  | 0, _, _ => throw .truncated
  | fuel + 1, isFirst, draft => do
    if (← peekToken) = 0x7D then
      let value ← record.complete draft
      drop
      return value
    else
      if !isFirst then takeComma
      openName
      readMembers record fuel false (← record.readMember draft)

/-- Reads the elements of an array into the given fields; the array may end before the last. -/
def readElements : List (Field δ) → Bool → δ → Reader δ
  | [], _, draft => return draft
  | field :: fields, isFirst, draft => do
    if (← peekToken) = 0x5D then return draft
    else
      if !isFirst then
        takeComma
        if (← peekToken) = 0x5D then throw .malformed
      readElements fields false (← field.read draft)

/-- Takes the end of an array. -/
def closeArray : Reader Unit := do
  match ← peekToken with
  | 0x5D => drop
  | _ => throw .malformed

/-- Reads a record. -/
def read (record : Record δ α) : Reader α := do
  let first ← peekToken
  if first = 0x7B then
    drop
    fun input => record.readMembers (input.length + 1) true record.blank input
  else if first = 0x5B then
    drop
    let value ← record.complete (← readElements record.fields true record.blank)
    closeArray
    return value
  else mismatch first

end Record

/-! ### Writing -/

/-- A member of an object: a name and a written value. -/
def writeMember (member : String × Bytes) : Bytes :=
  writeText member.1 ++ 0x3A :: member.2

/-- Written values with commas between them. -/
def writeSeparated : List Bytes → Bytes
  | [] => []
  | [value] => value
  | value :: values => value ++ 0x2C :: writeSeparated values

/-- An object without space. -/
def writeObject (members : List (String × Bytes)) : Bytes :=
  0x7B :: writeSeparated (members.map writeMember) ++ [0x7D]

/-- An array without space. -/
def writeArray (values : List Bytes) : Bytes :=
  0x5B :: writeSeparated values ++ [0x5D]

end Reminders.Json
