import Reminders.Text.Digits
import Reminders.Number.Binary64

/-!
# Number — the decimal text of a floating point value

A value is written with the fewest significant digits that read back as the same value, and of
those the nearest; always positionally, without an exponent, and without a point if it is whole.
Reading takes a decimal numeral with optional point and exponent, rounded once.
-/

namespace Reminders.Binary64

open Text

/-! ### Reading -/

/-- The value of a decimal numeral: `mantissa * 10 ^ exponent`, rounded once. -/
def ofDecimal (negative : Bool) (mantissa : Nat) (exponent : Int) : Binary64 :=
  let magnitude : Int := (digits mantissa).length + exponent
  if mantissa = 0 ∨ magnitude < -400 then .finite negative 0 (-1074)
  else if 400 < magnitude then .infinite negative
  else if 0 ≤ exponent then ofRatio negative (mantissa * Nat.pow 10 exponent.toNat) 1
  else ofRatio negative mantissa (Nat.pow 10 (-exponent).toNat)

/-- The exponent after its mark. -/
def readExponent (cs : List Char) : Option Int :=
  match cs with
  | '-' :: rest => (nat? rest).map fun n => -(n : Int)
  | '+' :: rest => (nat? rest).map Int.ofNat
  | rest => (nat? rest).map Int.ofNat

/-- The value of a numeral without sign: digits with a point among them, and an exponent. -/
def readNumeral (negative : Bool) (cs : List Char) : Option Binary64 := do
  let whole := cs.takeWhile Char.isDigit
  let rest := cs.dropWhile Char.isDigit
  let (fraction, rest) := match rest with
    | '.' :: rest => (rest.takeWhile Char.isDigit, rest.dropWhile Char.isDigit)
    | rest => ([], rest)
  if whole.isEmpty && fraction.isEmpty then none
  let exponent ← match rest with
    | [] => some 0
    | 'e' :: rest | 'E' :: rest => readExponent rest
    | _ => none
  return ofDecimal negative (Nat.ofDigitChars 10 (whole ++ fraction) 0) (exponent - fraction.length)

/-- The value of a whole text: a numeral, an infinity or not a number, with an optional sign. -/
def read? (s : String) : Option Binary64 :=
  let (negative, body) := match s.toList with
    | '-' :: cs => (true, cs)
    | '+' :: cs => (false, cs)
    | cs => (false, cs)
  let word := String.ofList (body.map Char.toLower)
  if word = "inf" ∨ word = "infinity" then some (.infinite negative)
  else if word = "nan" then some .nan
  else readNumeral negative body

/-! ### Writing -/

/-- A decimal numeral below one: the digits after the point, times a power of ten. -/
structure Numeral where
  digits : List Char
  exponent : Int

/-- The least power of ten above a positive fraction. -/
def decimalMagnitude (num den : Nat) : Int :=
  let guess : Int := ((digits num).length : Int) - (digits den).length
  let reached :=
    if 0 ≤ guess then den * Nat.pow 10 guess.toNat ≤ num else den ≤ num * Nat.pow 10 (-guess).toNat
  if reached then guess + 1 else guess

/-- The numerals of `count` digits next to a fraction that read back as `x`, the nearer first. -/
def candidates (x : Binary64) (negative : Bool) (num den : Nat) (magnitude : Int) (count : Nat) :
    List Numeral :=
  let unit : Int := magnitude - count
  let (n, d) := if 0 ≤ unit then (num, den * Nat.pow 10 unit.toNat)
    else (num * Nat.pow 10 (-unit).toNat, den)
  let below := n / d
  let ordered := if 2 * (n % d) ≤ d then [below, below + 1] else [below + 1, below]
  (ordered.filter fun c => ofDecimal negative c unit = x).map fun c =>
    ⟨digits c, (digits c).length + unit⟩

/-- The numeral with the fewest digits that reads back as `x`. -/
def shortest (x : Binary64) (negative : Bool) (num den : Nat) : Numeral :=
  let magnitude := decimalMagnitude num den
  let found := (List.range 17).findSome? fun i =>
    (candidates x negative num den magnitude (i + 1)).head?
  found.getD ⟨[], 0⟩

/-- Zeros at the end carry no information after a point. -/
def dropTrailingZeros (cs : List Char) : List Char :=
  (cs.reverse.dropWhile (· == '0')).reverse

/-- A numeral written positionally. -/
def Numeral.write (x : Numeral) : List Char :=
  let cs := dropTrailingZeros x.digits
  if x.exponent ≤ 0 then '0' :: '.' :: List.replicate (-x.exponent).toNat '0' ++ cs
  else
    let place := x.exponent.toNat
    if cs.length ≤ place then cs ++ List.replicate (place - cs.length) '0'
    else cs.take place ++ '.' :: cs.drop place

/-- The text of a value. -/
def write : Binary64 → String
  | .nan => "NaN"
  | .infinite negative => if negative then "-inf" else "inf"
  | .finite negative significand exponent =>
    let sign := if negative then ['-'] else []
    if significand = 0 then String.ofList (sign ++ ['0'])
    else
      let (n, d) := ratio significand exponent
      let x := Binary64.finite negative significand exponent
      String.ofList (sign ++ (shortest x negative n d).write)

end Reminders.Binary64
