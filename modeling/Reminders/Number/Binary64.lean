import Reminders.Number.Width

/-!
# Number — binary floating point of 64 bits

A finite value is a sign, a significand below `2^53` and a power of two of at least `2^-1074`.  All
arithmetic computes the exact rational result and then rounds it once, to the nearest value, a tie
going to the even significand.
-/

namespace Reminders

/-- The quotient rounded to the nearest natural number, a tie to the even one. -/
def roundQuotient (num den : Nat) : Nat :=
  let quotient := num / den
  let twice := 2 * (num % den)
  if twice < den then quotient
  else if den < twice then quotient + 1
  else quotient + quotient % 2

/-- A floating point value. -/
inductive Binary64 where
  | nan
  | infinite (negative : Bool)
  /-- The value `significand * 2 ^ exponent`, with a sign. -/
  | finite (negative : Bool) (significand : Nat) (exponent : Int)
deriving DecidableEq, Repr

namespace Binary64

def zero : Binary64 := .finite false 0 (-1074)

/-- The least significand of full precision, `2^52`. -/
def hiddenBit : Nat := 4503599627370496

def one : Binary64 := .finite false hiddenBit (-52)

/-- The quotient of two powers-of-two scaled numbers: `num * 2 ^ exponent / den` as a fraction. -/
def scale (num den : Nat) (exponent : Int) : Nat × Nat :=
  if 0 ≤ exponent then (num * Nat.pow 2 exponent.toNat, den) else (num, den * Nat.pow 2 (-exponent).toNat)

/-- The greatest power of two that is at most the fraction. -/
def floorLog2 (num den : Nat) : Int :=
  let guess : Int := (num.log2 : Int) - den.log2
  let (n, d) := scale num den (-guess)
  if n < d then guess - 1 else guess

/-- The value nearest to a fraction with a positive denominator, a tie to the even significand. -/
def ofRatio (negative : Bool) (num den : Nat) : Binary64 :=
  if num = 0 then .finite negative 0 (-1074)
  else
    let exponent := max (floorLog2 num den - 52) (-1074)
    let (n, d) := scale num den (-exponent)
    let significand := roundQuotient n d
    let (significand, exponent) :=
      if significand = 2 * hiddenBit then (hiddenBit, exponent + 1) else (significand, exponent)
    if 971 < exponent then .infinite negative else .finite negative significand exponent

/-- The absolute value of a finite value as a fraction. -/
def ratio (significand : Nat) (exponent : Int) : Nat × Nat :=
  scale significand 1 exponent

def isFinite : Binary64 → Bool
  | .finite .. => true
  | _ => false

/-- The value is less than one; not a number is not less than anything. -/
def ltOne : Binary64 → Bool
  | .nan => false
  | .infinite negative => negative
  | .finite negative significand exponent =>
    let (n, d) := ratio significand exponent
    negative || n < d

/-- The greater of a value and one; one for not a number. -/
def atLeastOne (x : Binary64) : Binary64 :=
  match x with
  | .nan => one
  | x => if x.ltOne then one else x

/-- The product, rounded. -/
def mul : Binary64 → Binary64 → Binary64
  | .finite s m e, .finite s' m' e' =>
    let (n, d) := ratio (m * m') (e + e')
    ofRatio (s != s') n d
  | .nan, _ | _, .nan => .nan
  | .infinite s, .infinite s' => .infinite (s != s')
  | .infinite s, .finite s' m _ | .finite s' m _, .infinite s =>
    if m = 0 then .nan else .infinite (s != s')

/-- A count of nanoseconds in seconds: the whole seconds and the rest are rounded, then their sum. -/
def ofNanoseconds (nanos : Nat) : Binary64 :=
  match ofRatio false (nanos / 1000000000) 1, ofRatio false (nanos % 1000000000) 1000000000 with
  | .finite _ m e, .finite _ m' e' =>
    let (n, d) := ratio m e
    let (n', d') := ratio m' e'
    ofRatio false (n * d' + n' * d) (d * d')
  | x, _ => x

/-- A count of seconds in whole nanoseconds, rounded to the nearest, a tie to the even one.  There
is none for a negative value, one of `2^64` seconds or more, or one that is not finite. -/
def toNanoseconds? : Binary64 → Option Nat
  | .finite negative m e =>
    let (n, d) := ratio m e
    if (negative && n != 0) || bound64 * d ≤ n then none
    else some (roundQuotient (n * 1000000000) d)
  | _ => none

end Binary64

end Reminders
