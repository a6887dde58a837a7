import Reminders.Json.Reader

/-!
# Json — quoted text

Text is written between quotes.  Quote, backslash and the control characters are escaped, all else
stands for itself.  Reading takes every escape of the format and checks in the end that the bytes
are valid UTF-8; text that is skipped is only checked for its escapes.

* `readTextBody_writeText`: what was written reads back, whatever follows it.
-/

namespace Reminders.Json

/-! ### Writing -/

/-- The lower-case digit of a number below sixteen. -/
def hexDigit (n : UInt8) : UInt8 :=
  if n < 10 then 0x30 + n else 0x57 + n

/-- The written form of one byte of a text. -/
def escape (b : UInt8) : Bytes :=
  if b = 0x22 then [0x5C, 0x22]
  else if b = 0x5C then [0x5C, 0x5C]
  else if 0x20 ≤ b then [b]
  else if b = 0x08 then [0x5C, 0x62]
  else if b = 0x0C then [0x5C, 0x66]
  else if b = 0x0A then [0x5C, 0x6E]
  else if b = 0x0D then [0x5C, 0x72]
  else if b = 0x09 then [0x5C, 0x74]
  else [0x5C, 0x75, 0x30, 0x30, hexDigit (b / 16), hexDigit (b % 16)]

/-- The written form of a text. -/
def writeText (s : String) : Bytes :=
  0x22 :: (bytesOf s).flatMap escape ++ [0x22]

/-! ### Reading -/

/-- The value of a hexadecimal digit. -/
def hexValue? (b : UInt8) : Option Nat :=
  if 0x30 ≤ b ∧ b ≤ 0x39 then some (b.toNat - 0x30)
  else if 0x61 ≤ b ∧ b ≤ 0x66 then some (b.toNat - 0x57)
  else if 0x41 ≤ b ∧ b ≤ 0x46 then some (b.toNat - 0x37)
  else none

/-- Takes four hexadecimal digits. -/
def readHex : Reader Nat
  | a :: b :: c :: d :: rest =>
    match hexValue? a, hexValue? b, hexValue? c, hexValue? d with
    | some a, some b, some c, some d => .ok (((a * 16 + b) * 16 + c) * 16 + d, rest)
    | _, _, _, _ => .error .malformed
  | _ => .error .truncated

/-- Takes the second half of a surrogate pair, with its mark. -/
def readLowSurrogate : Reader Nat
  | [] => .error .truncated
  | slash :: rest =>
    if slash ≠ 0x5C then .error .malformed
    else match rest with
    | [] => .error .truncated
    | mark :: rest =>
      if mark ≠ 0x75 then .error .malformed
      else do
        let (low, rest) ← readHex rest
        if 0xDC00 ≤ low ∧ low ≤ 0xDFFF then return (low, rest) else throw .malformed

/-- Takes the code of an escaped character, which may be a surrogate pair. -/
def readCode : Reader Nat := do
  let code ← readHex
  if 0xDC00 ≤ code ∧ code ≤ 0xDFFF then throw .malformed
  else if 0xD800 ≤ code ∧ code ≤ 0xDBFF then
    let low ← readLowSurrogate
    return 0x10000 + (code - 0xD800) * 0x400 + (low - 0xDC00)
  else return code

/-- The byte that an escape of one character stands for. -/
def escaped? (b : UInt8) : Option UInt8 :=
  match b with
  | 0x22 | 0x5C | 0x2F => some b
  | 0x62 => some 0x08
  | 0x66 => some 0x0C
  | 0x6E => some 0x0A
  | 0x72 => some 0x0D
  | 0x74 => some 0x09
  | _ => none

/-- Takes an escape after its backslash and returns the bytes that it stands for. -/
def readEscape : Reader Bytes
  | [] => .error .truncated
  | b :: rest =>
    if b = 0x75 then do
      let (code, rest) ← readCode rest
      return (String.utf8EncodeChar (Char.ofNat code), rest)
    else match escaped? b with
      | some value => .ok ([value], rest)
      | none => .error .malformed

/-- Takes an escape after its backslash without regard to the character that it stands for. -/
def skipEscape : Reader Bytes
  | [] => .error .truncated
  | b :: rest =>
    if b = 0x75 then do
      let (_, rest) ← readHex rest
      return ([], rest)
    else match escaped? b with
      | some _ => .ok ([], rest)
      | none => .error .malformed

/-- Takes a quoted text after its opening quote, with the given reader for escapes.  The bytes are
gathered in reverse; each of the `fuel` steps takes at least one byte. -/
def readBody (escapes : Reader Bytes) : Nat → Bytes → Reader Bytes
  | 0, _ => fun _ => .error .truncated
  | fuel + 1, gathered => fun input =>
    match input with
    | [] => .error .truncated
    | b :: rest =>
      if b = 0x22 then .ok (gathered.reverse, rest)
      else if b = 0x5C then do
        let (bytes, rest) ← escapes rest
        readBody escapes fuel (bytes.reverse ++ gathered) rest
      else if b < 0x20 then .error .malformed
      else readBody escapes fuel (b :: gathered) rest

/-- Takes a text after its opening quote. -/
def readTextBody : Reader String := fun input => do
  let (bytes, rest) ← readBody readEscape (input.length + 1) [] input
  match textOf? bytes with
  | some s => return (s, rest)
  | none => throw .malformed

/-- Skips a text after its opening quote. -/
def skipTextBody : Reader Unit := fun input => do
  let (_, rest) ← readBody skipEscape (input.length + 1) [] input
  return ((), rest)

/-! ### The written form reads back -/

/-- The two digits of a control character name it. -/
theorem hexValue?_hexDigit : ∀ n : Fin 32,
    hexValue? (hexDigit (UInt8.ofNat n / 16)) = some (n.val / 16) ∧
      hexValue? (hexDigit (UInt8.ofNat n % 16)) = some (n.val % 16) ∧
      String.utf8EncodeChar (Char.ofNat n.val) = [UInt8.ofNat n] := by
  decide

/-- The long escape of a control character reads back. -/
theorem readEscape_control (n : Fin 32) (rest : Bytes) :
    readEscape (0x75 :: 0x30 :: 0x30 :: hexDigit (UInt8.ofNat n / 16) ::
      hexDigit (UInt8.ofNat n % 16) :: rest) = .ok ([UInt8.ofNat n], rest) := by
  obtain ⟨h₁, h₂, h₃⟩ := hexValue?_hexDigit n
  have h₀ : hexValue? 0x30 = some 0 := rfl
  have hn : ((0 * 16 + 0) * 16 + n.val / 16) * 16 + n.val % 16 = n.val := by omega
  have hc : readCode (0x30 :: 0x30 :: hexDigit (UInt8.ofNat n / 16) ::
      hexDigit (UInt8.ofNat n % 16) :: rest) = .ok (n.val, rest) := by
    have h4 : ¬ (0xDC00 ≤ n.val ∧ n.val ≤ 0xDFFF) := by omega
    have h5 : ¬ (0xD800 ≤ n.val ∧ n.val ≤ 0xDBFF) := by omega
    simp only [readCode, bind, StateT.bind, readHex, h₀, h₁, h₂, hn, Except.bind, if_neg h4,
      if_neg h5]
    rfl
  rw [readEscape, if_pos rfl]
  simp only [hc, bind, Except.bind, h₃]
  rfl

/-- One written byte reads back. -/
theorem readBody_escape (b : UInt8) (fuel : Nat) (gathered rest : Bytes) :
    readBody readEscape (fuel + 1) gathered (escape b ++ rest) =
      readBody readEscape fuel (b :: gathered) rest := by
  by_cases h : 0x20 ≤ b
  · by_cases h₁ : b = 0x22
    · subst h₁; rfl
    · by_cases h₂ : b = 0x5C
      · subst h₂; rfl
      · have h₃ : ¬ b < 0x20 := by simpa using h
        simp [escape, h₁, h₂, h, readBody, h₃]
  · have hb : b.toNat < 32 := by simpa [UInt8.le_iff_toNat_le] using h
    have hlong := readEscape_control ⟨b.toNat, hb⟩ rest
    simp only [UInt8.ofNat_toNat] at hlong
    have h₁ : b ≠ 0x22 := by rintro rfl; exact h (by decide)
    have h₂ : b ≠ 0x5C := by rintro rfl; exact h (by decide)
    simp only [escape, if_neg h₁, if_neg h₂, if_neg h]
    repeat' split
    case isFalse.isFalse.isFalse.isFalse.isFalse =>
      simp only [List.cons_append, List.nil_append, readBody, hlong]
      rfl
    all_goals (next he => subst he; rfl)

/-- Written bytes read back up to the closing quote. -/
theorem readBody_flatMap_escape (bytes rest : Bytes) (fuel : Nat) (gathered : Bytes)
    (h : bytes.length < fuel) :
    readBody readEscape fuel gathered (bytes.flatMap escape ++ 0x22 :: rest) =
      .ok (gathered.reverse ++ bytes, rest) := by
  induction bytes generalizing fuel gathered with
  | nil =>
    cases fuel with
    | zero => simp at h
    | succ fuel => simp [readBody]
  | cons b bytes ih =>
    cases fuel with
    | zero => simp at h
    | succ fuel =>
      rw [List.flatMap_cons, List.append_assoc, readBody_escape, ih fuel _ (by simpa using h)]
      simp

theorem length_le_flatMap_escape (bytes : Bytes) :
    bytes.length ≤ (bytes.flatMap escape).length := by
  induction bytes with
  | nil => simp
  | cons b bytes ih =>
    have : 1 ≤ (escape b).length := by
      simp only [escape]; repeat' split
      all_goals simp
    simp only [List.flatMap_cons, List.length_append, List.length_cons]
    omega

/-- What was written reads back, whatever follows it. -/
theorem readTextBody_writeText (s : String) (rest : Bytes) :
    readTextBody ((writeText s).tail ++ rest) = .ok (s, rest) := by
  have hf : (bytesOf s).length < ((bytesOf s).flatMap escape ++ 0x22 :: rest).length + 1 := by
    have := length_le_flatMap_escape (bytesOf s)
    simp only [List.length_append, List.length_cons]; omega
  have e : (writeText s).tail ++ rest = (bytesOf s).flatMap escape ++ 0x22 :: rest := by
    simp [writeText]
  rw [readTextBody, e, readBody_flatMap_escape _ _ _ _ hf]
  simp only [List.reverse_nil, List.nil_append, bind, Except.bind, textOf?_bytesOf]
  rfl

end Reminders.Json
