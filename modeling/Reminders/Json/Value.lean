import Reminders.Json.Number
import Reminders.Json.Text

/-!
# Json — single values

Readers for the values that a field can hold: text, an integer within bounds, a time, an optional
value, one word of a fixed set.  A value of another shape is read to its end if it is a word, a
number or a text, so that a fault inside it is reported first.  `skipValue` passes over any value,
however deeply it is nested.
-/

namespace Reminders.Json

/-! ### Values of another shape -/

/-- The bytes of a word of letters. -/
def wordNull : Bytes := [0x6E, 0x75, 0x6C, 0x6C]

def wordTrue : Bytes := [0x74, 0x72, 0x75, 0x65]

def wordFalse : Bytes := [0x66, 0x61, 0x6C, 0x73, 0x65]

/-- Fails at a value that is not of the shape asked for. -/
def mismatch {α : Type} (first : UInt8) : Reader α := do
  if first = 0x6E then literal wordNull; throw .mismatched
  else if first = 0x74 then literal wordTrue; throw .mismatched
  else if first = 0x66 then literal wordFalse; throw .mismatched
  else if first = 0x2D || isDigitByte first then
    let _ ← readNumeric
    throw .mismatched
  else if first = 0x22 then
    drop
    let _ ← readTextBody
    throw .mismatched
  else if first = 0x5B || first = 0x7B then throw .mismatched
  else throw .malformed

/-! ### Typed values -/

/-- Reads a text. -/
def readText : Reader String := do
  let first ← peekToken
  if first = 0x22 then
    drop
    readTextBody
  else mismatch first

/-- Reads an integer that lies between the bounds. -/
def readIntegerIn (lower upper : Int) : Reader Int := do
  let first ← peekToken
  if first = 0x2D || isDigitByte first then
    match ← readNumeric with
    | .integer n => if lower ≤ n ∧ n ≤ upper then return n else throw .mismatched
    | .fractional => throw .mismatched
  else mismatch first

/-- Reads a text and takes it further. -/
def readTextAs {α : Type} (interpret : String → Option α) : Reader α := do
  match interpret (← readText) with
  | some value => return value
  | none => throw .mismatched

/-- Reads the word `null`. -/
def readNull : Reader Unit := do
  let first ← peekToken
  if first = 0x6E then literal wordNull else mismatch first

/-- Reads a value or the word `null`. -/
def readOptional {α : Type} (reader : Reader α) : Reader (Option α) := do
  match ← peek with
  | some 0x6E =>
    literal wordNull
    return none
  | _ => return some (← reader)

/-- Takes the colon between a name and its value. -/
def readColon : Reader Unit := do
  match ← peekToken with
  | 0x3A => drop
  | _ => throw .malformed

/-- Reads one word of a fixed set: the word itself, or an object whose only member has the word as
its name and `null` as its value. -/
def readWord {α : Type} (interpret : String → Option α) : Reader α := do
  let first ← peekToken
  if first = 0x22 then readTextAs interpret
  else if first = 0x7B then
    drop
    let value ← readTextAs interpret
    readColon
    readNull
    match ← peekToken with
    | 0x7D =>
      drop
      return value
    | _ => throw .malformed
  else throw .malformed

/-! ### Skipping -/

/-- A container that is being skipped. -/
inductive Container where
  | array
  | object
deriving DecidableEq

/-- What may come next while a value is skipped. -/
inductive Expectation where
  /-- A value; an array that has just been opened may also end. -/
  | value (mayClose : Bool)
  /-- The name of a member; an object that has just been opened may also end. -/
  | name (mayClose : Bool)
  /-- A comma or the end of the innermost container. -/
  | separator

/-- Skips a value that is no container. -/
def skipScalar (first : UInt8) : Reader Unit := do
  if first = 0x6E then literal wordNull
  else if first = 0x74 then literal wordTrue
  else if first = 0x66 then literal wordFalse
  else if first = 0x2D || isDigitByte first then skipNumber
  else if first = 0x22 then
    drop
    skipTextBody
  else throw .malformed

/-- Skips a member's name and its colon. -/
def skipName (first : UInt8) : Reader Unit := do
  if first = 0x22 then
    drop
    skipTextBody
    readColon
  else throw .malformed

/-- Skips to the end of the outermost value, given the open containers, innermost first.  Each of
the `fuel` steps takes at least one byte. -/
def skipFrom : Nat → List Container → Expectation → Reader Unit
  | 0, _, _ => throw .truncated
  | fuel + 1, stack, expected => do
    let first ← peekToken
    let close (more : List Container) : Reader Unit := do
      drop
      if more.isEmpty then return () else skipFrom fuel more .separator
    match expected, stack with
    | .value mayClose, stack =>
      if mayClose && first = 0x5D then close (stack.drop 1)
      else if first = 0x5B then
        drop
        skipFrom fuel (.array :: stack) (.value true)
      else if first = 0x7B then
        drop
        skipFrom fuel (.object :: stack) (.name true)
      else
        skipScalar first
        if stack.isEmpty then return () else skipFrom fuel stack .separator
    | .name mayClose, stack =>
      if mayClose && first = 0x7D then close (stack.drop 1)
      else
        skipName first
        skipFrom fuel stack (.value false)
    | .separator, .array :: more =>
      if first = 0x2C then
        drop
        skipFrom fuel (.array :: more) (.value false)
      else if first = 0x5D then close more
      else throw .malformed
    | .separator, .object :: more =>
      if first = 0x2C then
        drop
        skipFrom fuel (.object :: more) (.name false)
      else if first = 0x7D then close more
      else throw .malformed
    | .separator, [] => return ()

/-- Skips one value of any shape. -/
def skipValue : Reader Unit := fun input =>
  skipFrom (input.length + 1) [] (.value false) input

end Reminders.Json
