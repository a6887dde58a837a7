import Reminders.Json.Reader
import Reminders.Number.Binary64
import Reminders.Text.Digits

/-!
# Json — numbers

Where a number is wanted, a numeral without fraction and exponent is an integer if it fits 64 bits;
any other numeral, and `-0`, is fractional.  A fractional numeral too great for a binary floating
point value is malformed.  Where a number is skipped only its form is checked, and a numeral that
ends with the input is malformed rather than truncated.
-/

namespace Reminders.Json

/-- What a numeral stands for. -/
inductive Numeric where
  | integer (value : Int)
  | fractional
deriving DecidableEq

/-- The byte is a decimal digit. -/
def isDigitByte (b : UInt8) : Bool :=
  0x30 ≤ b && b ≤ 0x39

/-- The value of a digit. -/
def digitValue (b : UInt8) : Nat :=
  b.toNat - 0x30

/-- Appends digits to a significand while it has 64 bits; returns the digits left over. -/
def absorb (significand : Nat) : Bytes → Nat × Bytes
  | [] => (significand, [])
  | d :: ds =>
    let next := significand * 10 + digitValue d
    if next < bound64 then absorb next ds else (significand, d :: ds)

/-- A decimal numeral is below the floating point infinity: its significand and its power of ten
are each rounded, and so is their product. -/
def isFiniteDecimal (significand : Nat) (exponent : Int) : Bool :=
  if significand = 0 ∨ exponent < 0 then true
  else if 308 < exponent then false
  else
    (Binary64.mul (.ofRatio false significand 1) (.ofRatio false (Nat.pow 10 exponent.toNat) 1)).isFinite

/-- Takes the digits of an exponent after its sign. -/
def readExponentDigits : Reader Nat
  | [] => .error .truncated
  | b :: rest =>
    if isDigitByte b then
      let more := rest.takeWhile isDigitByte
      .ok ((b :: more).foldl (fun n d => n * 10 + digitValue d) 0, rest.dropWhile isDigitByte)
    else .error .malformed

/-- Takes the exponent of a numeral, if there is one. -/
def readExponentPart : Reader (Option Int) := fun input =>
  match input with
  | b :: rest =>
    if b = 0x65 ∨ b = 0x45 then
      match rest with
      | 0x2B :: rest => (fun (n, r) => (some (n : Int), r)) <$> readExponentDigits rest
      | 0x2D :: rest => (fun (n, r) => (some (-(n : Int)), r)) <$> readExponentDigits rest
      | rest => (fun (n, r) => (some (n : Int), r)) <$> readExponentDigits rest
    else .ok (none, input)
  | [] => .ok (none, [])

/-- Takes a numeral after its sign. -/
def readUnsigned (negative : Bool) : Reader Numeric
  | [] => .error .truncated
  | b :: rest => do
    let whole := if b = 0x30 then [] else rest.takeWhile isDigitByte
    if !isDigitByte b then throw .malformed
    let rest := rest.drop whole.length
    if b = 0x30 && (rest.head?.any isDigitByte) then throw .malformed
    let (significand, left) := absorb 0 (b :: whole)
    let (fraction, rest, pointed) := match rest with
      | 0x2E :: rest => (rest.takeWhile isDigitByte, rest.dropWhile isDigitByte, true)
      | rest => ([], rest, false)
    if pointed && fraction.isEmpty then
      throw (if rest.isEmpty then .truncated else .malformed)
    let (significand, unused) := absorb significand fraction
    let scale : Int := (left.length : Int) - (fraction.length - unused.length : Nat)
    let (exponent, rest) ← readExponentPart rest
    if !pointed && exponent.isNone && left.isEmpty then
      if !negative then return (.integer significand, rest)
      else if significand = 0 ∨ bound63 < significand then return (.fractional, rest)
      else return (.integer (-(significand : Int)), rest)
    else if isFiniteDecimal significand (scale + exponent.getD 0) then return (.fractional, rest)
    else throw .malformed

/-- Takes a numeral. -/
def readNumeric : Reader Numeric := fun input =>
  match input with
  | 0x2D :: rest => readUnsigned true rest
  | input => readUnsigned false input

/-- Skips an exponent, if there is one. -/
def skipExponentPart : Reader Unit := fun input =>
  match input with
  | b :: rest =>
    if b = 0x65 ∨ b = 0x45 then
      let rest := match rest with
        | 0x2B :: rest | 0x2D :: rest => rest
        | rest => rest
      if rest.head?.any isDigitByte then .ok ((), rest.dropWhile isDigitByte)
      else .error .malformed
    else .ok ((), input)
  | [] => .ok ((), [])

/-- Skips a numeral. -/
def skipNumber : Reader Unit := fun input =>
  let input := match input with
    | 0x2D :: rest => rest
    | input => input
  match input with
  | [] => .error .malformed
  | b :: rest =>
    if !isDigitByte b then .error .malformed
    else if b = 0x30 && (rest.head?.any isDigitByte) then .error .malformed
    else
      match rest.dropWhile isDigitByte with
      | 0x2E :: rest =>
        if rest.head?.any isDigitByte then skipExponentPart (rest.dropWhile isDigitByte)
        else .error .malformed
      | rest => skipExponentPart rest

/-! ### Writing -/

/-- The bytes of an integer. -/
def writeInteger (n : Int) : Bytes :=
  (Text.signedDigits n).map fun c => c.toNat.toUInt8

end Reminders.Json
