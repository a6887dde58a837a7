/-!
# Time — the proleptic Gregorian calendar

Days are numbered from 1970-01-01, which is day 0.  A year is counted from March, so that the
leap day is its last day; then 400 years have 146097 days, 100 years 36524 and one more at the end
of four centuries, 4 years 1461, and the months from March on begin at day `(153 m + 2) / 5`.

* `Date.toDay_ofDay`: the date of a day has that day.
-/

namespace Reminders

/-- A calendar date.  Years before 1 are 0, -1, … -/
structure Date where
  year : Int
  month : Nat
  day : Nat
deriving DecidableEq, Repr

namespace Date

/-- Leap years are the multiples of 4 that are no multiple of 100, and the multiples of 400. -/
def isLeapYear (year : Int) : Bool :=
  year % 4 == 0 && (year % 100 != 0 || year % 400 == 0)

/-- The number of days of a month. -/
def daysInMonth (year : Int) (month : Nat) : Nat :=
  match month with
  | 2 => if isLeapYear year then 29 else 28
  | 4 | 6 | 9 | 11 => 30
  | _ => 31

/-- The date exists in the calendar. -/
def isValid (d : Date) : Bool :=
  1 ≤ d.month && d.month ≤ 12 && 1 ≤ d.day && d.day ≤ daysInMonth d.year d.month

/-- The number of the day of a date. -/
def toDay (d : Date) : Int :=
  let year := if d.month ≤ 2 then d.year - 1 else d.year
  let month : Int := ((d.month + 9) % 12 : Nat)
  let cycle := year / 400
  let yearOfCycle := year % 400
  let dayOfYear := (153 * month + 2) / 5 + d.day - 1
  let dayOfCycle := yearOfCycle * 365 + yearOfCycle / 4 - yearOfCycle / 100 + dayOfYear
  cycle * 146097 + dayOfCycle - 719468

/-- The date of a numbered day. -/
def ofDay (n : Int) : Date :=
  let shifted := n + 719468
  let cycle := shifted / 146097
  let dayOfCycle := shifted % 146097
  let century := min (dayOfCycle / 36524) 3
  let dayOfCentury := dayOfCycle - century * 36524
  let quad := dayOfCentury / 1461
  let dayOfQuad := dayOfCentury % 1461
  let yearOfQuad := min (dayOfQuad / 365) 3
  let dayOfYear := dayOfQuad - yearOfQuad * 365
  let month := (5 * dayOfYear + 2) / 153
  let day := dayOfYear - (153 * month + 2) / 5 + 1
  let year := cycle * 400 + century * 100 + quad * 4 + yearOfQuad
  if month < 10 then ⟨year, (month + 3).toNat, day.toNat⟩
  else ⟨year + 1, (month - 9).toNat, day.toNat⟩

/-- The year of a cycle, rebuilt from its century, its group of four years, and the rest. -/
theorem dayOfCycle_eq {c q y d : Int} (hc : 0 ≤ c) (hc' : c ≤ 3) (hq : 0 ≤ q) (hq' : q ≤ 24)
    (hy : 0 ≤ y) (hy' : y ≤ 3) (k : Int) :
    (k * 400 + c * 100 + q * 4 + y) / 400 = k ∧
      (k * 400 + c * 100 + q * 4 + y) % 400 * 365 + (k * 400 + c * 100 + q * 4 + y) % 400 / 4 -
        (k * 400 + c * 100 + q * 4 + y) % 400 / 100 + d = c * 36524 + q * 1461 + y * 365 + d := by
  have h : (k * 400 + c * 100 + q * 4 + y) % 400 = c * 100 + q * 4 + y := by omega
  rw [h]
  omega

/-- The month and the day of the month, rebuilt from the day of the year. -/
theorem dayOfYear_eq {d : Int} (h : 0 ≤ d) (h' : d ≤ 365) :
    0 ≤ (5 * d + 2) / 153 ∧ (5 * d + 2) / 153 ≤ 11 ∧
      0 ≤ d - (153 * ((5 * d + 2) / 153) + 2) / 5 := by
  omega

/-- The date of a day has that day. -/
theorem toDay_ofDay (n : Int) : (ofDay n).toDay = n := by
  simp only [ofDay]
  generalize hs : n + 719468 = s
  have hr : 0 ≤ s % 146097 ∧ s % 146097 < 146097 := by omega
  have hk : s = s / 146097 * 146097 + s % 146097 := by omega
  generalize s % 146097 = r at hr hk
  generalize s / 146097 = k at hk
  have hc : 0 ≤ min (r / 36524) 3 ∧ min (r / 36524) 3 ≤ 3 ∧
      0 ≤ r - min (r / 36524) 3 * 36524 ∧ r - min (r / 36524) 3 * 36524 ≤ 36524 := by omega
  generalize min (r / 36524) 3 = c at hc
  generalize hrc : r - c * 36524 = rc at hc
  have hq : 0 ≤ rc / 1461 ∧ rc / 1461 ≤ 24 ∧ 0 ≤ rc % 1461 ∧ rc % 1461 ≤ 1460 ∧
      rc = rc / 1461 * 1461 + rc % 1461 := by omega
  generalize rc % 1461 = rq at hq
  generalize rc / 1461 = q at hq
  have hy : 0 ≤ min (rq / 365) 3 ∧ min (rq / 365) 3 ≤ 3 ∧ 0 ≤ rq - min (rq / 365) 3 * 365 ∧
      rq - min (rq / 365) 3 * 365 ≤ 365 := by omega
  generalize min (rq / 365) 3 = y at hy
  generalize hd : rq - y * 365 = d at hy
  obtain ⟨hm₁, hm₂, hm₃⟩ := dayOfYear_eq hy.2.2.1 hy.2.2.2
  obtain ⟨h₁, h₂⟩ := dayOfCycle_eq (d := d) hc.1 hc.2.1 hq.1 hq.2.1 hy.1 hy.2.1 k
  generalize k * 400 + c * 100 + q * 4 + y = year at h₁ h₂
  generalize hm : (5 * d + 2) / 153 = m at hm₁ hm₂ hm₃
  split <;> simp only [toDay]
  · have e₁ : (((m + 3).toNat + 9) % 12 : Nat) = m.toNat := by omega
    have e₂ : ¬ (m + 3).toNat ≤ 2 := by omega
    rw [e₁, if_neg e₂, h₁]
    omega
  · have e₁ : (((m - 9).toNat + 9) % 12 : Nat) = m.toNat := by omega
    have e₂ : (m - 9).toNat ≤ 2 := by omega
    rw [e₁, if_pos e₂, show year + 1 - 1 = year by omega, h₁]
    omega

end Date

end Reminders
