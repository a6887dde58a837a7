/-!
# Time — instants

An instant is a point of Coordinated Universal Time with nanosecond precision.  A minute may end
with a leap second, which lies between the last nanosecond of its second and the next second.  So
each second has two billion *ranks*: one billion nanoseconds of its own, and one billion more for a
leap second that follows it.  The order of instants is the order of ranks.

Instants span the years -262143 to 262142.  Arithmetic that leaves this span has no result
(`shift?`) or stops at its ends (`later`, `earlier`).
-/

namespace Reminders

/-- A point of time in the span of representable years. -/
structure Instant where
  /-- Two billion for each second since 1970, plus the nanoseconds in that second. -/
  rank : Int
  lower : -8334601228800 * 2000000000 ≤ rank
  upper : rank < 8210266876800 * 2000000000
deriving DecidableEq

namespace Instant

instance : LT Instant := ⟨fun a b => a.rank < b.rank⟩

instance : LE Instant := ⟨fun a b => a.rank ≤ b.rank⟩

instance (a b : Instant) : Decidable (a < b) := inferInstanceAs (Decidable (a.rank < b.rank))

instance (a b : Instant) : Decidable (a ≤ b) := inferInstanceAs (Decidable (a.rank ≤ b.rank))

theorem ext_rank {a b : Instant} (h : a.rank = b.rank) : a = b := by
  cases a; cases b; cases h; rfl

/-- Whole seconds since 1970-01-01T00:00:00Z; a leap second belongs to the second before it. -/
def unixSecond (t : Instant) : Int :=
  t.rank / 2000000000

/-- Nanoseconds since the start of the second: a billion or more in a leap second. -/
def nanosecond (t : Instant) : Int :=
  t.rank % 2000000000

/-- The instant of the given rank, if it lies in the span. -/
def ofRank? (rank : Int) : Option Instant :=
  if h : -8334601228800 * 2000000000 ≤ rank ∧ rank < 8210266876800 * 2000000000 then
    some ⟨rank, h.1, h.2⟩
  else none

/-- The instant some nanoseconds after a whole Unix second. -/
def ofUnix? (second : Int) (nanosecond : Int) : Option Instant :=
  if 0 ≤ nanosecond ∧ nanosecond < 2000000000 then ofRank? (second * 2000000000 + nanosecond)
  else none

/-- The first instant of the span. -/
def earliest : Instant :=
  ⟨-8334601228800 * 2000000000, by decide, by decide⟩

/-- The last nanosecond of the last second of the span. -/
def latest : Instant :=
  ⟨8210266876799 * 2000000000 + 999999999, by decide, by decide⟩

/-- The instant `nanos` nanoseconds later, or earlier if negative.  Inside a leap second, a move
that stays between the start of its second and its end only changes the nanoseconds; any other
move forward starts as if the leap second repeated its second, and any other move back as if it
were the first of the next second. -/
def shift? (t : Instant) (nanos : Int) : Option Instant :=
  let nano := t.nanosecond
  let elapsed (second : Int) (nano : Int) : Option Instant :=
    let total := second * 1000000000 + nano + nanos
    ofUnix? (total / 1000000000) (total % 1000000000)
  if nano < 1000000000 then elapsed t.unixSecond nano
  else if nanos ≤ -1000000000 then elapsed (t.unixSecond + 1) (nano - 1000000000)
  else if 1000000000 ≤ nanos ∨ (0 < nanos ∧ 2000000000 ≤ nano + nanos) then
    elapsed t.unixSecond (nano - 1000000000)
  else ofUnix? t.unixSecond (nano + nanos)

/-- The longest time by which an instant can be moved: below `2^63` milliseconds. -/
def longestMove : Nat := 9223372036854775807 * 1000000

/-- The time as one by which an instant can be moved, unless it is too long. -/
def move? (nanos : Nat) : Option Int :=
  if nanos ≤ longestMove then some nanos else none

/-- The instant `nanos` nanoseconds later, or the last one. -/
def later (t : Instant) (nanos : Nat) : Instant :=
  ((move? nanos).bind t.shift?).getD latest

/-- The instant `nanos` nanoseconds earlier, or the first one. -/
def earlier (t : Instant) (nanos : Nat) : Instant :=
  ((move? nanos).bind fun move => t.shift? (-move)).getD earliest

/-- The rank is determined by the second and the nanoseconds in it. -/
theorem rank_eq (t : Instant) : t.rank = t.unixSecond * 2000000000 + t.nanosecond := by
  simp only [unixSecond, nanosecond]; omega

theorem nanosecond_nonneg (t : Instant) : 0 ≤ t.nanosecond := by
  simp only [nanosecond]; omega

theorem nanosecond_lt (t : Instant) : t.nanosecond < 2000000000 := by
  simp only [nanosecond]; omega

theorem lt_def {a b : Instant} : a < b ↔ a.rank < b.rank := Iff.rfl

theorem le_def {a b : Instant} : a ≤ b ↔ a.rank ≤ b.rank := Iff.rfl

theorem ofRank?_rank (t : Instant) : ofRank? t.rank = some t := by
  rw [ofRank?, dif_pos ⟨t.lower, t.upper⟩]

theorem ofUnix?_self (t : Instant) : ofUnix? t.unixSecond t.nanosecond = some t := by
  rw [ofUnix?, if_pos ⟨t.nanosecond_nonneg, t.nanosecond_lt⟩, ← rank_eq, ofRank?_rank]

end Instant

end Reminders
