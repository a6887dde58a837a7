import Reminders.Store.Database

/-!
# Database — the table of events

What the queries about events mean on a table: which rows they return and which changes they ask
for.  A query is given the rows that it is about, so that whoever runs it decides what it sees and
when the changes take effect.

* `Query.outcome`: the reply to a query and the changes it asks for.
* `Query.changes_of_reads`, `Query.changes_of_adds`, `Query.changes_of_removes`: what a query of
  each kind changes.
* `KeptApart`: the rows of a table have different ids, and no two rows of one user overlap.  A row
  that is added or replaced keeps it so if the table is `Clear` of rows that it would overlap.
-/

namespace Reminders.Database

/-- A row of the table of events; its times are microseconds. -/
structure EventRow where
  id : String
  userId : String
  title : String
  description : String
  startTime : Int
  endTime : Int
  notifyBefore : Int
deriving DecidableEq

namespace EventRow

/-- The row of an event. -/
def ofEvent (e : Event) : EventRow :=
  ⟨e.id, e.userId, e.title, e.description, microsOf e.startTime, microsOf e.endTime,
    e.notifyBefore.toNat⟩

/-- The row with the given values in its columns. -/
def ofValues? : List Value → Option EventRow
  | [.text id, .text userId, .text title, .text description, .time startTime, .time endTime,
      .integer notifyBefore] =>
    some ⟨id, userId, title, description, startTime, endTime, notifyBefore⟩
  | _ => none

/-- The values of a row in the order of its columns. -/
def values (r : EventRow) : Row :=
  [.text r.id, .text r.userId, .text r.title, .text r.description, .time r.startTime,
    .time r.endTime, .integer r.notifyBefore]

/-- The row shares a microsecond with the time between `first` and `last`. -/
def meets (r : EventRow) (first last : Int) : Bool :=
  r.startTime < last && first < r.endTime

/-- The row satisfies the constraints of the table. -/
def isValid (r : EventRow) : Bool :=
  r.startTime < r.endTime && 0 ≤ r.notifyBefore

/-- The microsecond at which a notification is due. -/
def notifyAt (r : EventRow) : Int :=
  r.startTime - r.notifyBefore * 1000000

/-- Rows are listed by start, and by id where the start is the same. -/
def listedBefore (a b : EventRow) : Bool :=
  a.startTime < b.startTime || (a.startTime == b.startTime && a.id ≤ b.id)

theorem ofValues?_valuesOf (e : Event) :
    ofValues? (DatabaseStore.valuesOf e) = some (ofEvent e) := rfl

theorem meets_comm (a b : EventRow) :
    a.meets b.startTime b.endTime = b.meets a.startTime a.endTime := by
  simp only [meets, Bool.and_comm]

end EventRow

/-- The rows of the table of events. -/
abbrev Table := List EventRow

/-- A change of one row. -/
inductive Change where
  | insert (row : EventRow)
  /-- The row takes the place of the one with its id. -/
  | replace (row : EventRow)
  | remove (id : String)
deriving DecidableEq

/-- The id of the row that is changed. -/
def Change.id : Change → String
  | .insert row => row.id
  | .replace row => row.id
  | .remove id => id

namespace Table

/-- The table after a change. -/
def change (t : Table) : Change → Table
  | .insert row => t ++ [row]
  | .replace row => t.map fun r => if r.id = row.id then row else r
  | .remove id => t.filter fun r => r.id ≠ id

/-- The table after some changes in turn. -/
def apply (t : Table) (changes : List Change) : Table :=
  changes.foldl change t

/-- The table has a row with this id. -/
def Has (t : Table) (id : String) : Prop :=
  ∃ r ∈ t, r.id = id

instance (t : Table) (id : String) : Decidable (t.Has id) :=
  inferInstanceAs (Decidable (∃ r ∈ t, r.id = id))

/-- The rows in the order of listings. -/
def sorted (t : Table) : Table :=
  t.mergeSort EventRow.listedBefore

/-- The rows as a reply. -/
def found (t : Table) : Reply :=
  .rows (t.map EventRow.values)

/-- The changes that remove the rows. -/
def removals (t : Table) : List Change :=
  t.map fun r => .remove r.id

end Table

/-! ### Queries -/

/-- The code of a parameter that has another type than its column. -/
def datatypeMismatch : String := "42804"

/-- The code of a row that violates a constraint. -/
def checkViolation : String := "23514"

/-- The query adds a row or replaces one. -/
def Query.Adds : Query → Prop
  | .insertEvent | .updateEvent => True
  | _ => False

/-- The query removes rows. -/
def Query.Removes : Query → Prop
  | .deleteEvent | .deleteEndedBefore => True
  | _ => False

/-- The reply to a query about the given rows and the changes that it asks for.  The queries about
messages concern another table. -/
def Query.outcome (q : Query) (parameters : List Value) (t : Table) : Reply × List Change :=
  match q, parameters with
  | .lockUser, [.text _] => (.rows [[.null]], [])
  | .eventExists, [.text id] | .lockEvent, [.text id] =>
    (.rows ((t.filter (·.id == id)).map fun _ => [.integer 1]), [])
  | .overlappingEvent, [.text userId, .text id, .time first, .time last] =>
    let met : Table := t.filter fun r => r.userId == userId && r.id != id && r.meets first last
    (.rows ((met.sorted.take 1).map fun r => [.text r.id]), [])
  | .insertEvent, values =>
    match EventRow.ofValues? values with
    | none => (.failure datatypeMismatch, [])
    | some row =>
      if !row.isValid then (.failure checkViolation, [])
      else if t.Has row.id then (.failure uniqueViolation, [])
      else (.affected 1, [.insert row])
  | .updateEvent, values =>
    match EventRow.ofValues? values with
    | none => (.failure datatypeMismatch, [])
    | some row =>
      if ¬ t.Has row.id then (.affected 0, [])
      else if !row.isValid then (.failure checkViolation, [])
      else (.affected (t.countP (·.id == row.id)), [.replace row])
  | .deleteEvent, [.text id] =>
    let gone : Table := t.filter (·.id == id)
    (.affected gone.length, gone.removals)
  | .deleteEndedBefore, [.time cutoff] =>
    let gone : Table := t.filter (·.endTime < cutoff)
    (.affected gone.length, gone.removals)
  | .selectEvent, [.text id] => (Table.found (t.filter (·.id == id)), [])
  | .selectEvents, [] => (t.sorted.found, [])
  | .selectEventsOfUser, [.text userId] =>
    ((Table.sorted (t.filter (·.userId == userId))).found, [])
  | .selectEventsOfUserInRange, [.text userId, .time first, .time last] =>
    ((Table.sorted (t.filter fun r => r.userId == userId &&
      !(r.endTime ≤ first || last ≤ r.startTime))).found, [])
  | .selectDueEvents, [.time now, .time before] =>
    ((Table.sorted (t.filter fun r => now < r.startTime && now < r.notifyAt &&
      r.notifyAt ≤ before)).found, [])
  | _, _ => (.failure datatypeMismatch, [])

/-- A query that neither adds nor removes changes nothing. -/
theorem Query.changes_of_reads {q : Query} (ha : ¬ q.Adds) (hr : ¬ q.Removes)
    (parameters : List Value) (t : Table) : (q.outcome parameters t).2 = [] := by
  unfold outcome
  split
  case h_5 | h_6 => exact absurd trivial ha
  case h_7 | h_8 => exact absurd trivial hr
  all_goals rfl

/-- A query that adds changes nothing, inserts its row under a new id, or replaces the row that has
its id. -/
theorem Query.changes_of_adds {q : Query} (ha : q.Adds) (parameters : List Value) (t : Table) :
    (q.outcome parameters t).2 = [] ∨ ∃ row, EventRow.ofValues? parameters = some row ∧
      (q = .insertEvent ∧ ¬ t.Has row.id ∧ (q.outcome parameters t).2 = [.insert row] ∨
        q = .updateEvent ∧ (q.outcome parameters t).2 = [.replace row]) := by
  cases q with
  | insertEvent =>
      cases hv : EventRow.ofValues? parameters with
      | none => exact .inl (by simp only [outcome, hv])
      | some row =>
          by_cases hc : row.isValid = true
          · by_cases ht : t.Has row.id
            · exact .inl (by simp [outcome, hv, hc, ht])
            · exact .inr ⟨row, rfl, .inl ⟨rfl, ht, by simp [outcome, hv, hc, ht]⟩⟩
          · exact .inl (by simp [outcome, hv, hc])
  | updateEvent =>
      cases hv : EventRow.ofValues? parameters with
      | none => exact .inl (by simp only [outcome, hv])
      | some row =>
          by_cases ht : t.Has row.id
          · by_cases hc : row.isValid = true
            · exact .inr ⟨row, rfl, .inr ⟨rfl, by simp [outcome, hv, hc, ht]⟩⟩
            · exact .inl (by simp [outcome, hv, hc, ht])
          · exact .inl (by simp [outcome, hv, ht])
  | _ => exact absurd ha id

/-- A query that removes only removes. -/
theorem Query.changes_of_removes {q : Query} (hr : q.Removes) (parameters : List Value) (t : Table)
    {c : Change} (hc : c ∈ (q.outcome parameters t).2) : ∃ id, c = .remove id := by
  have hremovals : ∀ gone : Table, c ∈ gone.removals → ∃ id, c = .remove id := fun gone h => by
    obtain ⟨r, _, rfl⟩ := List.mem_map.mp h
    exact ⟨r.id, rfl⟩
  unfold outcome at hc
  split at hc
  case h_5 | h_6 => exact absurd hr id
  case h_7 | h_8 => exact hremovals _ hc
  all_goals cases hc

/-- So does a query that does not add. -/
theorem Query.changes_of_not_adds {q : Query} (ha : ¬ q.Adds) (parameters : List Value) (t : Table)
    {c : Change} (hc : c ∈ (q.outcome parameters t).2) : ∃ id, c = .remove id := by
  by_cases hr : q.Removes
  · exact changes_of_removes hr parameters t hc
  · rw [changes_of_reads ha hr] at hc
    cases hc

/-! ### Rows that are kept apart -/

/-- The two rows have different ids, and if they belong to one user they do not overlap. -/
def EventRow.Apart (a b : EventRow) : Prop :=
  a.id ≠ b.id ∧ (a.userId = b.userId → a.meets b.startTime b.endTime = false)

theorem EventRow.Apart.symm {a b : EventRow} (h : a.Apart b) : b.Apart a :=
  ⟨h.1.symm, fun hu => by rw [← meets_comm]; exact h.2 hu.symm⟩

namespace Table

/-- The rows of the table have different ids, and no two rows of one user overlap. -/
def KeptApart (t : Table) : Prop :=
  t.Pairwise EventRow.Apart

/-- No row of the user under another id meets the time between `first` and `last`. -/
def Clear (t : Table) (userId id : String) (first last : Int) : Prop :=
  ∀ r ∈ t, r.userId = userId → r.id ≠ id → r.meets first last = false

/-- The table is clear for a row. -/
def ClearFor (t : Table) (row : EventRow) : Prop :=
  t.Clear row.userId row.id row.startTime row.endTime

instance (t : Table) (userId id : String) (first last : Int) :
    Decidable (t.Clear userId id first last) :=
  inferInstanceAs (Decidable (∀ r ∈ t, r.userId = userId → r.id ≠ id → r.meets first last = false))

instance (t : Table) (row : EventRow) : Decidable (t.ClearFor row) :=
  inferInstanceAs (Decidable (t.Clear _ _ _ _))

theorem sorted_eq_nil {t : Table} : t.sorted = [] ↔ t = [] := by
  rw [← List.length_eq_zero_iff, sorted, List.length_mergeSort, List.length_eq_zero_iff]

/-- The search for an overlapping row finds none exactly if the table is clear. -/
theorem found_overlapping_eq_nil {t : Table} {userId id : String} {first last : Int} :
    (Query.outcome .overlappingEvent [.text userId, .text id, .time first, .time last] t).1.found =
        [] ↔ t.Clear userId id first last := by
  simp only [Query.outcome, Reply.found, List.map_eq_nil_iff, List.take_eq_nil_iff, sorted_eq_nil]
  simp [Clear]

theorem outcome_overlappingEvent_of_clear {t : Table} {userId id : String} {first last : Int}
    (h : t.Clear userId id first last) :
    Query.outcome .overlappingEvent [.text userId, .text id, .time first, .time last] t =
      (.rows [], []) := by
  have hmet : (t.filter fun r => r.userId == userId && r.id != id && r.meets first last) = [] := by
    simpa [Clear] using h
  simp only [Query.outcome, hmet, sorted_eq_nil.mpr, List.take_nil, List.map_nil]

/-- Where the table is not clear, the search finds one of the overlapping rows. -/
theorem outcome_overlappingEvent_of_not_clear {t : Table} {userId id : String} {first last : Int}
    (h : ¬ t.Clear userId id first last) :
    ∃ r ∈ t, r.userId = userId ∧ r.id ≠ id ∧ r.meets first last = true ∧
      Query.outcome .overlappingEvent [.text userId, .text id, .time first, .time last] t =
        (.rows [[.text r.id]], []) := by
  let met : Table := t.filter fun r => r.userId == userId && r.id != id && r.meets first last
  have hmet : met.sorted ≠ [] := fun hnil => h (by simpa [met, Clear] using sorted_eq_nil.mp hnil)
  obtain ⟨r, rest, hsorted⟩ := List.exists_cons_of_ne_nil hmet
  have hr : r ∈ met := List.mem_mergeSort.mp (hsorted ▸ List.mem_cons_self : r ∈ met.sorted)
  simp only [met, List.mem_filter, Bool.and_eq_true, beq_iff_eq, bne_iff_ne] at hr
  refine ⟨r, hr.1, hr.2.1.1, hr.2.1.2, hr.2.2, ?_⟩
  show (Reply.rows ((met.sorted.take 1).map fun r => [.text r.id]), []) = _
  rw [hsorted]
  rfl

theorem outcome_eventExists_of_not_has {t : Table} {id : String} (h : ¬ t.Has id) :
    Query.outcome .eventExists [.text id] t = (.rows [], []) := by
  have hfound : t.filter (·.id == id) = [] := by
    simpa [Has] using h
  simp only [Query.outcome, hfound, List.map_nil]

theorem outcome_insertEvent {t : Table} {values : List Value} {row : EventRow}
    (hv : EventRow.ofValues? values = some row) (hrow : row.isValid = true) (h : ¬ t.Has row.id) :
    Query.outcome .insertEvent values t = (.affected 1, [.insert row]) := by
  simp [Query.outcome, hv, hrow, h]

theorem mem_insert {t : Table} {row r : EventRow} :
    r ∈ t.change (.insert row) ↔ r ∈ t ∨ r = row := by
  simp [change]

theorem mem_replace {t : Table} {row r : EventRow} :
    r ∈ t.change (.replace row) ↔ r = row ∧ t.Has row.id ∨ r ∈ t ∧ r.id ≠ row.id := by
  simp only [change, List.mem_map, Has]
  constructor
  · rintro ⟨a, ha, rfl⟩
    by_cases h : a.id = row.id
    · exact .inl ⟨if_pos h, a, ha, h⟩
    · exact .inr (by rw [if_neg h]; exact ⟨ha, h⟩)
  · rintro (⟨rfl, a, ha, h⟩ | ⟨hr, h⟩)
    · exact ⟨a, ha, if_pos h⟩
    · exact ⟨r, hr, if_neg h⟩

theorem mem_remove {t : Table} {id : String} {r : EventRow} :
    r ∈ t.change (.remove id) ↔ r ∈ t ∧ r.id ≠ id := by
  simp [change]

/-- A table that is clear for a row stays so if it only loses rows of its user. -/
theorem Clear.mono {t t' : Table} {userId id : String} {first last : Int}
    (h : t.Clear userId id first last) (hsub : ∀ r ∈ t', r.userId = userId → r ∈ t) :
    t'.Clear userId id first last :=
  fun r hr hu hid => h r (hsub r hr hu) hu hid

namespace KeptApart

variable {t : Table}

theorem nil : KeptApart [] := List.Pairwise.nil

theorem remove (h : t.KeptApart) (id : String) : (t.change (.remove id)).KeptApart :=
  h.filter _

theorem insert (h : t.KeptApart) {row : EventRow} (hid : ¬ t.Has row.id) (hc : t.ClearFor row) :
    (t.change (.insert row)).KeptApart := by
  refine List.pairwise_append.mpr ⟨h, List.pairwise_singleton _ _, fun a ha b hb => ?_⟩
  obtain rfl := List.mem_singleton.mp hb
  have hne : a.id ≠ b.id := fun he => hid ⟨a, ha, he⟩
  exact ⟨hne, fun hu => hc a ha hu hne⟩

/-- The new row is apart from each other row; of two rows one at most is replaced. -/
theorem replace (h : t.KeptApart) {row : EventRow} (hc : t.ClearFor row) :
    (t.change (.replace row)).KeptApart := by
  have hrow : ∀ a ∈ t, a.id ≠ row.id → a.Apart row := fun a ha hne =>
    ⟨hne, fun hu => hc a ha hu hne⟩
  refine List.pairwise_map.mpr (h.imp_of_mem fun {a b} ha hb hab => ?_)
  by_cases hai : a.id = row.id
  -- Two rows of one id would not be apart.
  · have hbi : b.id ≠ row.id := fun hbi => hab.1 (hai.trans hbi.symm)
    rw [if_pos hai, if_neg hbi]
    exact (hrow b hb hbi).symm
  · by_cases hbi : b.id = row.id
    · rw [if_neg hai, if_pos hbi]
      exact hrow a ha hai
    · rw [if_neg hai, if_neg hbi]
      exact hab

end KeptApart

end Table

end Reminders.Database
