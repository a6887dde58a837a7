import Mathlib.Algebra.Group.Nat.Defs
import Reminders.Text.Digits

/-!
# Text — digits and the numbers they write

* `head?_digits_ne`: a written number has no leading zeros.
* `ofDigitChars_lt`: some digits write a number that is less than one with more digits.
* `exists_of_readNat`: what a reader of digits takes.
* `natBelow?_digits`: a text that is a written number is read back.
-/

namespace Reminders.Text

theorem toNat_of_isDigit {c : Char} (h : c.isDigit = true) : 48 ≤ c.toNat ∧ c.toNat ≤ 57 := by
  simp only [Char.isDigit, Bool.and_eq_true, decide_eq_true_eq, UInt32.le_iff_toNat_le] at h
  exact h

theorem not_isBlankChar_of_isDigit {c : Char} (h : c.isDigit = true) : isBlankChar c = false := by
  obtain ⟨hlower, hupper⟩ := toNat_of_isDigit h
  simp only [isBlankChar, Bool.or_eq_false_iff, Bool.and_eq_false_iff, decide_eq_false_iff_not,
    beq_eq_false_iff_ne]
  omega

theorem skipBlanks_cons {c : Char} (h : isBlankChar c = false) (cs : List Char) :
    skipBlanks (c :: cs) = c :: cs := by
  simp [skipBlanks, h]

/-! ### Written numbers -/

/-- No written number but zero begins with the digit zero. -/
theorem head?_digits_ne {n : Nat} (h : 0 < n) : (digits n).head? ≠ some '0' := by
  -- The first digit of a number of several digits is that of its tenth.
  induction n using Nat.strongRecOn with
  | ind n ih =>
      by_cases hn : n < 10
      · have hdigit : ∀ d : Fin 10, 0 < d.val → Nat.digitChar d.val ≠ '0' := by decide
        rw [digits, Nat.toDigits_of_lt_base hn, List.head?_cons]
        exact fun heq => hdigit ⟨n, hn⟩ h (Option.some.inj heq)
      · have htenth : (digits (n / 10)).head? ≠ some '0' := ih (n / 10) (by omega) (by omega)
        have hfirst := List.head?_eq_some_head (Nat.toDigits_ne_nil (n := n / 10) (b := 10))
        rw [digits, hfirst] at htenth
        rw [digits, Nat.toDigits_of_base_le (by decide) (by omega), List.head?_append, hfirst]
        exact htenth

theorem exists_digits_cons (n : Nat) : ∃ c cs, digits n = c :: cs ∧ c.isDigit = true := by
  cases hdigits : digits n with
  | nil => exact absurd hdigits Nat.toDigits_ne_nil
  | cons c cs =>
      have hc : c ∈ digits n := by rw [hdigits]; exact List.mem_cons_self
      exact ⟨c, cs, rfl, isDigit_of_mem_digits hc⟩

/-! ### The number of some digits -/

theorem le_ofDigitChars (cs : List Char) (n : Nat) : n ≤ Nat.ofDigitChars 10 cs n := by
  induction cs generalizing n with
  | nil => exact Nat.le_of_eq Nat.ofDigitChars_nil.symm
  | cons c cs ih =>
      rw [Nat.ofDigitChars_cons]
      have := ih (10 * n + (c.toNat - '0'.toNat))
      omega

theorem ofDigitChars_lt {cs : List Char} (h : ∀ c ∈ cs, c.isDigit = true) (n : Nat) :
    Nat.ofDigitChars 10 cs n < (n + 1) * 10 ^ cs.length := by
  induction cs generalizing n with
  | nil => simp
  | cons c cs ih =>
      have hzero : '0'.toNat = 48 := rfl
      have hc := toNat_of_isDigit (h c List.mem_cons_self)
      rw [Nat.ofDigitChars_cons, List.length_cons]
      calc Nat.ofDigitChars 10 cs (10 * n + (c.toNat - '0'.toNat))
          < (10 * n + (c.toNat - '0'.toNat) + 1) * 10 ^ cs.length :=
            ih (fun c hc => h c (List.mem_cons_of_mem _ hc)) _
        _ ≤ ((n + 1) * 10) * 10 ^ cs.length := Nat.mul_le_mul_right _ (by omega)
        _ = (n + 1) * 10 ^ (cs.length + 1) := by rw [Nat.mul_assoc, Nat.pow_succ']

/-- A reader of digits takes some digits from the front, no more than its limit. -/
theorem exists_of_readNat {limit n : Nat} {cs rest : List Char}
    (h : readNat limit cs = some (n, rest)) :
    ∃ ds, cs = ds ++ rest ∧ ds.length ≤ limit ∧ n < 10 ^ ds.length := by
  obtain ⟨-, h⟩ := Option.ite_none_left_eq_some.mp h
  obtain ⟨rfl, rfl⟩ := Prod.mk.inj (Option.some.inj h)
  have htaken : (cs.take limit).takeWhile Char.isDigit <+: cs :=
    (List.takeWhile_prefix _).trans (List.take_prefix _ _)
  have hdigits : ∀ c ∈ (cs.take limit).takeWhile Char.isDigit, c.isDigit = true :=
    List.all_eq_true.mp List.all_takeWhile
  have hvalue := ofDigitChars_lt hdigits 0
  rw [Nat.zero_add, Nat.one_mul] at hvalue
  refine ⟨_, (List.prefix_iff_eq_append.mp htaken).symm, ?_, hvalue⟩
  exact Nat.le_trans (List.takeWhile_prefix _).length_le (List.length_take_le _ _)

/-! ### Reading a whole text -/

theorem nat?_digits (n : Nat) : nat? (digits n) = some n := by
  have hall : (digits n).all Char.isDigit = true :=
    List.all_eq_true.mpr fun c => isDigit_of_mem_digits
  have hne : (digits n).isEmpty = false := List.isEmpty_eq_false_iff.mpr Nat.toDigits_ne_nil
  rw [nat?, hall, hne, digits, Nat.ofDigitChars_toDigits (by decide) (by decide)]
  rfl

/-- A written number below the bound is read back. -/
theorem natBelow?_digits {bound n : Nat} (h : n < bound) :
    natBelow? bound (String.ofList (digits n)) = some n := by
  rw [natBelow?, String.toList_ofList]
  split
  · next cs hsign =>
      have hplus : '+' ∈ digits n := hsign ▸ List.mem_cons_self
      exact absurd (isDigit_of_mem_digits hplus) (by decide)
  · rw [nat?_digits]
    exact if_pos (decide_eq_true h)

/-- A text without blank characters is trimmed already. -/
theorem trim_eq_self {cs : List Char} (h : ∀ c ∈ cs, isBlankChar c = false) :
    trim (String.ofList cs) = String.ofList cs := by
  have hskip : ∀ ds : List Char, (∀ c ∈ ds, isBlankChar c = false) → skipBlanks ds = ds := by
    intro ds hds
    cases ds with
    | nil => rfl
    | cons c ds => exact skipBlanks_cons (hds c List.mem_cons_self) ds
  rw [trim, String.toList_ofList, hskip cs h, hskip _ fun c hc => h c (List.mem_reverse.mp hc),
    List.reverse_reverse]

end Reminders.Text
