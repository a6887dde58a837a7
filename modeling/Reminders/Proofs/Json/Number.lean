import Reminders.Proofs.Json.Record
import Reminders.Proofs.Text.Digits

/-!
# Json — written integers read back

An integer is written in decimal without leading zeros.  A reader takes all digits that follow each
other, so a written integer reads back only in front of something that does not go on with it: in a
record that is the comma or the brace after the value.

* `readNumeric_writeInteger`: an integer that fits 64 bits reads back as itself.
* `readIntegerIn_writeInteger`: it is accepted where its bounds allow it.
-/

namespace Reminders.Json

open Text

/-! ### Digits as bytes -/

/-- The byte of a character of one byte. -/
def byteOf (c : Char) : UInt8 :=
  c.toNat.toUInt8

theorem toNat_byteOf {c : Char} (h : c.isDigit = true) : (byteOf c).toNat = c.toNat := by
  have hdigit := toNat_of_isDigit h
  have hbyte : (byteOf c).toNat = c.toNat % 256 := rfl
  omega

theorem isDigitByte_byteOf {c : Char} (h : c.isDigit = true) : isDigitByte (byteOf c) = true := by
  have hbyte := toNat_byteOf h
  have hdigit := toNat_of_isDigit h
  have h₀ : (0x30 : UInt8).toNat = 48 ∧ (0x39 : UInt8).toNat = 57 := ⟨rfl, rfl⟩
  simp only [isDigitByte, Bool.and_eq_true, decide_eq_true_eq, UInt8.le_iff_toNat_le]
  omega

theorem digitValue_byteOf {c : Char} (h : c.isDigit = true) :
    digitValue (byteOf c) = c.toNat - '0'.toNat := by
  rw [digitValue, toNat_byteOf h]
  rfl

theorem byteOf_ne {c : Char} (h : c.isDigit = true) (hc : c ≠ '0') : byteOf c ≠ 0x30 := by
  intro heq
  have hnat : (byteOf c).toNat = 48 := congrArg UInt8.toNat heq
  rw [toNat_byteOf h] at hnat
  exact hc (Char.toNat_inj.mp hnat)

/-- A significand takes all digits of a number of 64 bits. -/
theorem absorb_map_byteOf {cs : List Char} (hcs : ∀ c ∈ cs, c.isDigit = true) {significand : Nat}
    (h : Nat.ofDigitChars 10 cs significand < bound64) :
    absorb significand (cs.map byteOf) = (Nat.ofDigitChars 10 cs significand, []) := by
  induction cs generalizing significand with
  | nil => rw [List.map_nil, absorb, Nat.ofDigitChars_nil]
  | cons c cs ih =>
      rw [Nat.ofDigitChars_cons] at h ⊢
      have hvalue : significand * 10 + digitValue (byteOf c) =
          10 * significand + (c.toNat - '0'.toNat) := by
        rw [digitValue_byteOf (hcs c List.mem_cons_self), Nat.mul_comm]
      have hfits : 10 * significand + (c.toNat - '0'.toNat) < bound64 :=
        Nat.lt_of_le_of_lt (le_ofDigitChars cs _) h
      simp only [List.map_cons, absorb, hvalue, if_pos hfits]
      exact ih (fun c hc => hcs c (List.mem_cons_of_mem _ hc)) h

/-! ### Numerals -/

/-- What an unsigned numeral stands for after a sign. -/
def signed (negative : Bool) (n : Nat) : Numeric :=
  if !negative then .integer n
  else if n = 0 ∨ bound63 < n then .fractional
  else .integer (-(n : Int))

theorem Record.AtEnd.exists_cons {rest : Bytes} (h : AtEnd rest) :
    ∃ x more, rest = x :: more ∧ (x = 0x2C ∨ x = 0x7D) := by
  rcases h with h | h
  · obtain ⟨more, rfl⟩ := List.head?_eq_some_iff.mp h
    exact ⟨_, more, rfl, .inl rfl⟩
  · obtain ⟨more, rfl⟩ := List.head?_eq_some_iff.mp h
    exact ⟨_, more, rfl, .inr rfl⟩

/-- Some digits, of which the first is zero only if it is the only one, read back as their value in
front of the end of a value. -/
theorem readUnsigned_cons (negative : Bool) {c : Char} {cs : List Char}
    (hall : ∀ d ∈ c :: cs, d.isDigit = true) (hzero : c = '0' → cs = [])
    (hn : Nat.ofDigitChars 10 (c :: cs) 0 < bound64) {rest : Bytes} (hrest : Record.AtEnd rest) :
    readUnsigned negative ((c :: cs).map byteOf ++ rest) =
      .ok (signed negative (Nat.ofDigitChars 10 (c :: cs) 0), rest) := by
  obtain ⟨x, more, rfl, hx⟩ := hrest.exists_cons
  have hend : isDigitByte x = false := by rcases hx with rfl | rfl <;> rfl
  have hwhole : (if byteOf c = 0x30 then [] else
      (cs.map byteOf ++ x :: more).takeWhile isDigitByte) = cs.map byteOf := by
    by_cases hc : c = '0'
    · rw [hzero hc, hc]
      rfl
    · rw [if_neg (byteOf_ne (hall c List.mem_cons_self) hc), List.takeWhile_append_of_pos]
      · simp [hend]
      · intro b hb
        obtain ⟨d, hd, rfl⟩ := List.mem_map.mp hb
        exact isDigitByte_byteOf (hall d (List.mem_cons_of_mem _ hd))
  have habsorb := absorb_map_byteOf hall hn
  rw [List.map_cons] at habsorb
  have hfirst : isDigitByte (byteOf c) = true := isDigitByte_byteOf (hall c List.mem_cons_self)
  rw [List.map_cons, List.cons_append, readUnsigned]
  simp only [hwhole, hfirst, habsorb, List.drop_left', List.head?_cons, Option.any_some, hend,
    Bool.and_false, Bool.not_true, Bool.false_eq_true, if_false]
  generalize Nat.ofDigitChars 10 (c :: cs) 0 = n
  -- Neither the comma nor the brace begins a fraction or an exponent.
  rcases hx with rfl | rfl <;> cases negative
  case inl.false | inr.false => rfl
  case inl.true | inr.true =>
    rw [signed]
    by_cases hfractional : n = 0 ∨ bound63 < n
    · simp only [Bool.not_true, Bool.false_eq_true, if_false, if_pos hfractional]
      exact if_pos hfractional
    · simp only [Bool.not_true, Bool.false_eq_true, if_false, if_neg hfractional]
      exact if_neg hfractional

/-- The digits of a number read back in front of the end of a value. -/
theorem readUnsigned_digits (negative : Bool) {n : Nat} (hn : n < bound64) {rest : Bytes}
    (hrest : Record.AtEnd rest) :
    readUnsigned negative ((digits n).map byteOf ++ rest) = .ok (signed negative n, rest) := by
  have hvalue : Nat.ofDigitChars 10 (digits n) 0 = n := Nat.ofDigitChars_ten_toDigits
  have hall : ∀ c ∈ digits n, c.isDigit = true := fun _ => isDigit_of_mem_digits
  have hhead : 0 < n → (digits n).head? ≠ some '0' := head?_digits_ne
  rcases Nat.eq_zero_or_pos n with rfl | hpos
  · have hzero : ∀ c ∈ ['0'], c.isDigit = true := fun c hc => List.mem_singleton.mp hc ▸ rfl
    exact readUnsigned_cons negative hzero (fun _ => rfl) hn hrest
  · obtain ⟨c, cs, hdigits, -⟩ := exists_digits_cons n
    rw [hdigits] at hvalue hall hhead ⊢
    have hread := readUnsigned_cons negative hall
      (fun hc => absurd (congrArg some hc) (hhead hpos)) (by rw [hvalue]; exact hn) hrest
    rwa [hvalue] at hread

theorem writeInteger_ofNat (n : Nat) : writeInteger n = (digits n).map byteOf := rfl

theorem writeInteger_neg {n : Nat} (h : 0 < n) :
    writeInteger (-(n : Int)) = 0x2D :: (digits n).map byteOf := by
  obtain ⟨m, rfl⟩ := Nat.exists_eq_succ_of_ne_zero (Nat.ne_of_gt h)
  rfl

/-- A numeral begins with a minus sign or a digit, and so neither with space nor like `null`. -/
theorem not_isSpace_of_numeral {b : UInt8} (h : (b = 0x2D || isDigitByte b) = true) :
    isSpace b = false ∧ b ≠ 0x6E := by
  have hbytes : (0x30 : UInt8).toNat = 48 ∧ (0x39 : UInt8).toNat = 57 ∧ (0x2D : UInt8).toNat = 45 ∧
      (0x20 : UInt8).toNat = 32 ∧ (0x0A : UInt8).toNat = 10 ∧ (0x0D : UInt8).toNat = 13 ∧
      (0x09 : UInt8).toNat = 9 ∧ (0x6E : UInt8).toNat = 110 := by decide
  simp only [isDigitByte, Bool.or_eq_true, Bool.and_eq_true, decide_eq_true_eq,
    UInt8.le_iff_toNat_le, ← UInt8.toNat_inj] at h
  simp only [isSpace, Bool.or_eq_false_iff, beq_eq_false_iff_ne, ne_eq, ← UInt8.toNat_inj]
  omega

theorem exists_writeInteger_cons (n : Int) :
    ∃ b bs, writeInteger n = b :: bs ∧ (b = 0x2D || isDigitByte b) = true := by
  cases n with
  | negSucc n => exact ⟨0x2D, _, rfl, rfl⟩
  | ofNat n =>
      obtain ⟨c, cs, hdigits, hc⟩ := exists_digits_cons n
      refine ⟨byteOf c, cs.map byteOf, ?_, ?_⟩
      · rw [Int.ofNat_eq_natCast, writeInteger_ofNat, hdigits, List.map_cons]
      · rw [isDigitByte_byteOf hc, Bool.or_true]

/-- A numeral without a minus sign is read from its first digit on. -/
theorem readNumeric_of_isDigitByte {b : UInt8} (h : isDigitByte b = true) (rest : Bytes) :
    readNumeric (b :: rest) = readUnsigned false (b :: rest) := by
  rw [readNumeric]
  intro _ heq
  obtain rfl := (List.cons.inj heq).1
  cases h

/-- An integer that fits 64 bits reads back in front of the end of a value. -/
theorem readNumeric_writeInteger {n : Int} (hlower : -(bound63 : Int) ≤ n)
    (hupper : n < (bound64 : Int)) {rest : Bytes} (hrest : Record.AtEnd rest) :
    readNumeric (writeInteger n ++ rest) = .ok (.integer n, rest) := by
  rcases Int.lt_or_le n 0 with hneg | hnonneg
  · obtain ⟨m, rfl⟩ : ∃ m : Nat, n = -(m : Int) := ⟨n.natAbs, by omega⟩
    have hm : ¬ (m = 0 ∨ bound63 < m) := by omega
    have hfits : m < bound64 := by simp only [bound63, bound64] at *; omega
    rw [writeInteger_neg (by omega), List.cons_append, readNumeric,
      readUnsigned_digits true hfits hrest, signed, if_neg (by decide), if_neg hm]
  · obtain ⟨m, rfl⟩ : ∃ m : Nat, n = m := ⟨n.toNat, by omega⟩
    obtain ⟨c, cs, hdigits, hc⟩ := exists_digits_cons m
    have hread := readUnsigned_digits false (n := m) (by omega) hrest
    rw [hdigits, List.map_cons, List.cons_append] at hread
    rw [writeInteger_ofNat, hdigits, List.map_cons, List.cons_append,
      readNumeric_of_isDigitByte (isDigitByte_byteOf hc), hread]
    rfl

/-- An integer within the bounds of its field reads back in front of the end of a value. -/
theorem readIntegerIn_writeInteger {lower upper n : Int} (hlower : lower ≤ n) (hupper : n ≤ upper)
    (hlower' : -(bound63 : Int) ≤ lower) (hupper' : upper < (bound64 : Int)) {rest : Bytes}
    (hrest : Record.AtEnd rest) :
    readIntegerIn lower upper (writeInteger n ++ rest) = .ok (n, rest) := by
  obtain ⟨b, bs, hwritten, hb⟩ := exists_writeInteger_cons n
  have hread := readNumeric_writeInteger (n := n) (by omega) (by omega) hrest
  rw [hwritten, List.cons_append] at hread ⊢
  refine (peekToken_bind (not_isSpace_of_numeral hb).1 _ _).trans ?_
  rw [if_pos hb]
  refine (reader_bind hread).trans ?_
  simp only [if_pos (And.intro hlower hupper)]
  rfl

/-- A value that does not begin like the word `null` is read as a value that is there. -/
theorem readOptional_cons {α : Type} {reader : Reader α} {b : UInt8} {bs rest : Bytes} {a : α}
    (hspace : isSpace b = false) (hnull : b ≠ 0x6E) (h : reader (b :: bs) = .ok (a, rest)) :
    readOptional reader (b :: bs) = .ok (some a, rest) := by
  have hpeek : peek (b :: bs) = .ok (some b, b :: bs) := by
    simp [peek, skipSpace, hspace]
  refine (reader_bind hpeek).trans ?_
  generalize hfirst : some b = first
  split
  · exact absurd (Option.some.inj hfirst) hnull
  · exact (reader_bind h).trans rfl

end Reminders.Json
