import Mathlib.Algebra.Group.Nat.Defs
import Reminders.Proofs.Text.Digits
import Reminders.Time.Written

/-!
# Time — the written form of an instant reads back

A number of a known width reads back whatever follows it, and the year, whose width is open, reads
back because a mark follows it.  So the fields of a written instant read back one by one, and they
name that instant again.  The exception is an instant in the second half of a second that no leap
second can follow: its written form names the next second.

* `read?_write`: the written form of `t` reads back as `t.settled`.
* `settled_eq`: that is `t` itself, in a leap second at the end of a minute and outside of any.
-/

namespace Reminders.Text

/-! ### Digits -/

/-- Some digits read back if no further digit can be taken. -/
theorem readNat_append {ds rest : List Char} {limit : Nat} (hd : ∀ c ∈ ds, c.isDigit = true)
    (hne : ds ≠ []) (hl : ds.length ≤ limit)
    (hr : ds.length = limit ∨ ∀ c ∈ rest.head?, c.isDigit = false) :
    readNat limit (ds ++ rest) = some (Nat.ofDigitChars 10 ds 0, rest) := by
  -- The digits end where the limit is reached or no further digit follows.
  have hstop : (rest.take (limit - ds.length)).takeWhile Char.isDigit = [] := by
    rcases hr with rfl | hr
    · simp
    · cases rest with
      | nil => simp
      | cons c cs =>
          cases limit - ds.length with
          | zero => simp
          | succ k => simp [hr c (by simp)]
  have htake : ((ds ++ rest).take limit).takeWhile Char.isDigit = ds := by
    rw [List.take_append, List.take_of_length_le hl, List.takeWhile_append_of_pos hd, hstop,
      List.append_nil]
  simp only [readNat, htake, List.drop_left]
  rw [if_neg (by simpa using hne)]

theorem isDigit_of_mem_padded {width n : Nat} {c : Char} (h : c ∈ padded width n) :
    c.isDigit = true := by
  rcases List.mem_append.mp h with h' | h'
  · obtain ⟨_, rfl⟩ := List.mem_replicate.mp h'
    rfl
  · exact isDigit_of_mem_digits h'

theorem padded_ne_nil (width n : Nat) : padded width n ≠ [] := by
  simp [padded, digits]

theorem ofDigitChars_padded (width n : Nat) : Nat.ofDigitChars 10 (padded width n) 0 = n := by
  rw [padded, Nat.ofDigitChars_append, Nat.ofDigitChars_replicate_zero, Nat.mul_zero, digits,
    Nat.ofDigitChars_ten_toDigits]

theorem length_padded {width n : Nat} (hw : 0 < width) (h : n < 10 ^ width) :
    (padded width n).length = width := by
  have hd : (digits n).length ≤ width := (Nat.length_toDigits_le_iff (by decide) hw).mpr h
  simp only [padded, List.length_append, List.length_replicate]
  omega

/-- A number that fits its width reads back, whatever follows it. -/
theorem readNat_padded {width n : Nat} (hw : 0 < width) (h : n < 10 ^ width) (rest : List Char) :
    readNat width (padded width n ++ rest) = some (n, rest) := by
  have hlength := length_padded hw h
  rw [readNat_append (fun _ => isDigit_of_mem_padded) (padded_ne_nil width n) (Nat.le_of_eq hlength)
      (.inl hlength),
    ofDigitChars_padded]

/-- A number of any width reads back if no digit follows it. -/
theorem readNat_padded_of_head {width n limit : Nat} {rest : List Char}
    (hl : (padded width n).length ≤ limit) (hr : ∀ c ∈ rest.head?, c.isDigit = false) :
    readNat limit (padded width n ++ rest) = some (n, rest) := by
  rw [readNat_append (fun _ => isDigit_of_mem_padded) (padded_ne_nil width n) hl (.inr hr),
    ofDigitChars_padded]

theorem skipBlanks_padded (width n : Nat) (rest : List Char) :
    skipBlanks (padded width n ++ rest) = padded width n ++ rest := by
  cases hp : padded width n with
  | nil => exact absurd hp (padded_ne_nil width n)
  | cons c cs =>
      have hc : c ∈ padded width n := by rw [hp]; exact List.mem_cons_self
      exact skipBlanks_cons (not_isBlankChar_of_isDigit (isDigit_of_mem_padded hc)) _

end Reminders.Text

namespace Reminders

open Text

/-! ### Dates -/

namespace Date

/-- From March to December the months have 31, 30, 31, 30 and 31 days, and so on again. -/
theorem day_le_daysInMonth {d m : Int} (hm : (5 * d + 2) / 153 = m) (h₀ : 0 ≤ m) (h₁ : m < 10)
    (year : Int) : d - (153 * m + 2) / 5 + 1 ≤ daysInMonth year (m + 3).toNat := by
  have hdays : (daysInMonth year (m + 3).toNat : Int) =
      if m = 1 ∨ m = 3 ∨ m = 6 ∨ m = 8 then 30 else 31 := by
    obtain rfl | rfl | rfl | rfl | rfl | rfl | rfl | rfl | rfl | rfl :
        m = 0 ∨ m = 1 ∨ m = 2 ∨ m = 3 ∨ m = 4 ∨ m = 5 ∨ m = 6 ∨ m = 7 ∨ m = 8 ∨ m = 9 := by omega
    all_goals rfl
  rw [hdays]
  split <;> omega

/-- February has a 29th day, the last one of a year counted from March, only in a leap year. -/
theorem isLeapYear_of_last {k c q r : Int} (hq : 0 ≤ q) (hr : r < 36524 ∨ c = 3) (hr' : r ≤ 36524)
    (h : r = q * 1461 + 1460) : isLeapYear (k * 400 + c * 100 + q * 4 + 3 + 1) = true := by
  simp only [isLeapYear, Bool.and_eq_true, Bool.or_eq_true, beq_iff_eq, bne_iff_ne]
  omega

theorem month_le_and_day_le {d : Date} (h : d.isValid = true) : d.month ≤ 12 ∧ d.day ≤ 31 := by
  have hdays : daysInMonth d.year d.month ≤ 31 := by
    simp only [daysInMonth]
    split
    · split <;> decide
    all_goals decide
  simp only [isValid, Bool.and_eq_true, decide_eq_true_eq] at h
  omega

/-- The date of a day exists in the calendar. -/
theorem isValid_ofDay (n : Int) : (ofDay n).isValid = true := by
  simp only [ofDay]
  -- Each quotient and remainder gets a name, so that what remains is linear.
  generalize hs : n + 719468 = s
  have hr : 0 ≤ s % 146097 ∧ s % 146097 < 146097 := by omega
  generalize s % 146097 = r at hr
  generalize s / 146097 = k
  generalize hcent : min (r / 36524) 3 = c
  generalize hrc : r - c * 36524 = rc
  generalize hquad : rc / 1461 = q
  generalize hrq : rc % 1461 = rq
  generalize hyear : min (rq / 365) 3 = y
  generalize hday : rq - y * 365 = d
  generalize hmonth : (5 * d + 2) / 153 = m
  have hd : 0 ≤ d ∧ d ≤ 365 := by omega
  split
  · next hm =>
      have hlast := day_le_daysInMonth hmonth (by omega) hm (k * 400 + c * 100 + q * 4 + y)
      simp only [isValid, Bool.and_eq_true, decide_eq_true_eq]
      omega
  · next hm =>
      -- The last day of a year counted from March is 29 February, in a leap year only.
      have hleap : d = 365 → isLeapYear (k * 400 + c * 100 + q * 4 + y + 1) = true := by
        intro hd'
        obtain rfl : y = 3 := by omega
        exact isLeapYear_of_last (r := rc) (by omega) (by omega) (by omega) (by omega)
      obtain rfl | rfl : m = 10 ∨ m = 11 := by omega
      · have hdays : daysInMonth (k * 400 + c * 100 + q * 4 + y + 1) (10 - 9 : Int).toNat = 31 :=
          rfl
        simp only [isValid, hdays, Bool.and_eq_true, decide_eq_true_eq]
        omega
      · have hdays : daysInMonth (k * 400 + c * 100 + q * 4 + y + 1) (11 - 9 : Int).toNat =
            if isLeapYear (k * 400 + c * 100 + q * 4 + y + 1) then 29 else 28 := rfl
        simp only [isValid, hdays, Bool.and_eq_true, decide_eq_true_eq]
        by_cases hd' : d = 365
        · rw [if_pos (hleap hd')]
          omega
        · refine ⟨by omega, ?_⟩
          split <;> omega

end Date

namespace Instant

/-! ### Fields -/

theorem readMark_cons {mark : Char} (h : isBlankChar mark = false) (rest : List Char) :
    readMark mark (mark :: rest) = some rest := by
  simp [readMark, skipBlanks_cons h]

theorem readField_padded {width n : Nat} (hw : 0 < width) (h : n < 10 ^ width) (rest : List Char) :
    readField width (padded width n ++ rest) = some (n, rest) := by
  rw [readField, skipBlanks_padded, readNat_padded hw h]

/-- A year without a sign has at most four digits. -/
theorem readYear_of_isDigit {c : Char} (h : c.isDigit = true) (cs : List Char) :
    readYear (c :: cs) = (readNat 4 (c :: cs)).map fun (n, r) => ((n : Int), r) := by
  rw [readYear, skipBlanks_cons (not_isBlankChar_of_isDigit h)]
  split
  · next heq => cases heq; cases h
  · next heq => cases heq; cases h
  · rfl

/-- A written year reads back in front of a mark. -/
theorem readYear_writeYear (year : Int) {rest : List Char}
    (hr : ∀ c ∈ rest.head?, c.isDigit = false) :
    readYear (writeYear year ++ rest) = some (year, rest) := by
  have hsigned : ∀ width n : Nat,
      readNat (padded width n ++ rest).length (padded width n ++ rest) = some (n, rest) :=
    fun _ _ => readNat_padded_of_head (by simp) hr
  rw [writeYear]
  split
  · have hskip : ∀ cs, skipBlanks ('-' :: cs) = '-' :: cs := skipBlanks_cons rfl
    simp only [List.cons_append, readYear, hskip, hsigned, Option.map_some]
    rw [show -(year.natAbs : Int) = year by omega]
  · split
    -- No sign: the first digit tells the reader to take a year of four digits.
    · have hread : readNat 4 (padded 4 year.toNat ++ rest) = some (year.toNat, rest) :=
        readNat_padded (by decide) (by omega) rest
      cases hp : padded 4 year.toNat with
      | nil => exact absurd hp (padded_ne_nil 4 _)
      | cons c cs =>
          have hc : c ∈ padded 4 year.toNat := by rw [hp]; exact List.mem_cons_self
          rw [hp] at hread
          have hyear : ((year.toNat : Nat) : Int) = year := by omega
          rw [List.cons_append, readYear_of_isDigit (isDigit_of_mem_padded hc), ← List.cons_append,
            hread]
          simp only [Option.map_some, hyear]
    · have hskip : ∀ cs, skipBlanks ('+' :: cs) = '+' :: cs := skipBlanks_cons rfl
      simp only [List.cons_append, readYear, hskip, hsigned, Option.map_some]
      rw [show ((year.toNat : Nat) : Int) = year by omega]

theorem readFraction_padded {width n : Nat} (hw : 0 < width) (hw' : width ≤ 9) (h : n < 10 ^ width)
    {rest : List Char} (hr : ∀ c ∈ rest.head?, c.isDigit = false) :
    readFraction ('.' :: padded width n ++ rest) = some (n * 10 ^ (9 - width), rest) := by
  have hlength := length_padded hw h
  have hread : readNat 9 (padded width n ++ rest) = some (n, rest) :=
    readNat_padded_of_head (by omega) hr
  have hrest : rest.dropWhile Char.isDigit = rest := by
    cases rest with
    | nil => rfl
    | cons c cs => simp [hr c (by simp)]
  have hused : (padded width n ++ rest).length - rest.length = width := by
    rw [List.length_append, hlength]
    omega
  simp only [List.cons_append, readFraction, hread, bind, Option.bind, hrest, hused]
  rfl

/-- A written fraction reads back in front of the zone. -/
theorem readFraction_writeFraction {nanos : Nat} (h : nanos < 1000000000) :
    readFraction (writeFraction nanos ++ ['Z']) = some (nanos, ['Z']) := by
  have hr : ∀ c ∈ ['Z'].head?, c.isDigit = false := by
    intro c hc
    obtain rfl : 'Z' = c := Option.some.inj hc
    rfl
  rw [writeFraction]
  split
  · next h₀ => rw [h₀]; rfl
  · split
    · next h₃ =>
        rw [readFraction_padded (by decide) (by decide) (by omega) hr,
          show nanos / 1000000 * 10 ^ (9 - 3) = nanos by omega]
    · split
      · next h₆ =>
          rw [readFraction_padded (by decide) (by decide) (by omega) hr,
            show nanos / 1000 * 10 ^ (9 - 6) = nanos by omega]
      · rw [readFraction_padded (by decide) (by decide) (by omega) hr,
          show nanos * 10 ^ (9 - 9) = nanos by omega]

/-! ### Instants -/

/-- The start of the next second is not too early. -/
theorem lower_of_unsettled (t : Instant) :
    -8334601228800 * 2000000000 ≤
      (t.unixSecond + 1) * 2000000000 + (t.nanosecond - 1000000000) := by
  have := t.lower
  simp only [unixSecond, nanosecond]
  omega

/-- The next second is not too late: the last second of the span ends a minute. -/
theorem upper_of_unsettled {t : Instant}
    (h : ¬ (t.nanosecond < 1000000000 ∨ t.unixSecond % 60 = 59)) :
    (t.unixSecond + 1) * 2000000000 + (t.nanosecond - 1000000000) <
      8210266876800 * 2000000000 := by
  have := t.upper
  simp only [unixSecond, nanosecond] at h ⊢
  omega

/-- The instant that the written form names.  A leap second at the end of a minute is written as
second 60; after any other second, what lies beyond its last nanosecond is written as the next
second. -/
def settled (t : Instant) : Instant :=
  if h : t.nanosecond < 1000000000 ∨ t.unixSecond % 60 = 59 then t
  else
    { rank := (t.unixSecond + 1) * 2000000000 + (t.nanosecond - 1000000000)
      lower := lower_of_unsettled t
      upper := upper_of_unsettled h }

theorem settled_eq {t : Instant} (h : t.nanosecond < 1000000000 ∨ t.unixSecond % 60 = 59) :
    t.settled = t :=
  dif_pos h

theorem ofUnix?_eq {second nanos : Int} {t : Instant} (hn : 0 ≤ nanos) (hn' : nanos < 2000000000)
    (h : t.rank = second * 2000000000 + nanos) : ofUnix? second nanos = some t := by
  rw [ofUnix?, if_pos ⟨hn, hn'⟩, ← h, ofRank?_rank]

/-- The rank of the instant that is written, from the second and the nanoseconds of its form. -/
theorem rank_settled {t : Instant} {s n : Nat} (hs : s = (t.unixSecond % 86400).toNat)
    (hn : n = t.nanosecond.toNat) :
    t.settled.rank =
      (t.unixSecond / 86400 * 86400 + (s / 3600 : Nat) * 3600 + (s / 60 % 60 : Nat) * 60 +
        (s % 60 + n / 1000000000 - (s % 60 + n / 1000000000) / 60 : Nat)) * 2000000000 +
      (((s % 60 + n / 1000000000) / 60 : Nat) * 1000000000 + (n % 1000000000 : Nat)) := by
  have h₀ := t.nanosecond_nonneg
  have h₁ := t.nanosecond_lt
  have hrank := t.rank_eq
  by_cases h : t.nanosecond < 1000000000 ∨ t.unixSecond % 60 = 59
  · rw [settled_eq h, hrank]
    omega
  · rw [settled, dif_neg h]
    simp only
    omega

/-- The fields of an instant name the instant that is written. -/
theorem ofFields?_fields (t : Instant) :
    ofFields? t.date ((t.unixSecond % 86400).toNat / 3600)
      ((t.unixSecond % 86400).toNat / 60 % 60)
      ((t.unixSecond % 86400).toNat % 60 + t.nanosecond.toNat / 1000000000)
      (t.nanosecond.toNat % 1000000000) 0 = some t.settled := by
  have hrank := rank_settled (t := t) rfl rfl
  have h₁ := t.nanosecond_lt
  have hdate : t.date.isValid = true ∧ t.date.toDay = t.unixSecond / 86400 :=
    ⟨Date.isValid_ofDay _, Date.toDay_ofDay _⟩
  generalize hs : (t.unixSecond % 86400).toNat = s at hrank
  generalize hn : t.nanosecond.toNat = n at hrank
  have hvalid : (t.date.isValid && s / 3600 < 24 && s / 60 % 60 < 60 &&
      s % 60 + n / 1000000000 ≤ 60) = true := by
    simp only [hdate.1, Bool.true_and, Bool.and_eq_true, decide_eq_true_eq]
    omega
  have hread := ofUnix?_eq (by omega) (by omega) hrank
  rw [ofFields?, if_pos hvalid]
  simp only [hdate.2, Int.sub_zero, hread, Option.isSome_some, if_true]

/-- **The written form reads back.** -/
theorem readChars?_writeChars (t : Instant) : readChars? t.writeChars = some t.settled := by
  obtain ⟨hmonth, hday⟩ : t.date.month ≤ 12 ∧ t.date.day ≤ 31 :=
    Date.month_le_and_day_le (Date.isValid_ofDay _)
  have h₀ := t.nanosecond_nonneg
  have h₁ := t.nanosecond_lt
  have hdash : ∀ cs, readMark '-' ('-' :: cs) = some cs := readMark_cons rfl
  have hcolon : ∀ cs, readMark ':' (':' :: cs) = some cs := readMark_cons rfl
  have hfield : ∀ n, n < 10 ^ 2 → ∀ cs, readField 2 (padded 2 n ++ cs) = some (n, cs) := fun _ =>
    readField_padded (by decide)
  have hyear : ∀ cs,
      readYear (writeYear t.date.year ++ '-' :: cs) = some (t.date.year, '-' :: cs) :=
    fun cs => readYear_writeYear _ (by simp)
  have hfraction : readFraction (writeFraction (t.nanosecond.toNat % 1000000000) ++ ['Z']) =
      some (t.nanosecond.toNat % 1000000000, ['Z']) := readFraction_writeFraction (by omega)
  have hzone : readZone (skipBlanks ['Z']) = some (0, []) := rfl
  have hend : (skipBlanks []).isEmpty = true := rfl
  simp only [readChars?, writeChars, writeFields, List.append_assoc, List.cons_append,
    Option.bind_eq_bind, Option.bind_some, hyear, hdash, hcolon, hfraction, hzone,
    hfield t.date.month (by omega), hfield t.date.day (by omega),
    hfield ((t.unixSecond % 86400).toNat / 3600) (by omega),
    hfield ((t.unixSecond % 86400).toNat / 60 % 60) (by omega),
    hfield ((t.unixSecond % 86400).toNat % 60 + t.nanosecond.toNat / 1000000000) (by omega)]
  rw [if_pos hend]
  exact ofFields?_fields t

theorem read?_write (t : Instant) : read? t.write = some t.settled := by
  rw [read?, write, String.toList_ofList, readChars?_writeChars]

end Instant

end Reminders
