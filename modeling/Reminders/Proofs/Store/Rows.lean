import Reminders.Proofs.Database.Storable
import Reminders.Proofs.Database.Table
import Reminders.Proofs.Event.Interval
import Reminders.Proofs.Monad

/-!
# Store — events as rows

An event is *storable* if it starts before it ends and a column can hold its times.  Then its row
satisfies the constraints of the table and reads back as the event, and what the queries ask of its
row is what the store in memory asks of the event.

* `eventOfRow_ofEvent`, `mapM_eventOfRow`: rows read back.
* `meets_ofEvent`, `listedBefore_ofEvent`, `isDue_ofEvent`: the tests on rows.
* `filter_ofEvents`, `sorted_ofEvents`: selecting and listing rows.
-/

namespace Reminders

open Database

namespace Event

/-- The event starts before it ends, and a column can hold its times. -/
structure IsStorable (e : Event) : Prop where
  startTime : e.startTime.IsStorable
  endTime : e.endTime.IsStorable
  isInterval : e.startTime < e.endTime

theorem isStorable_iff {e : Event} :
    e.IsStorable ↔
      e.startTime.IsStorable ∧ e.endTime.IsStorable ∧ e.startTime < e.endTime :=
  ⟨fun h => ⟨h.startTime, h.endTime, h.isInterval⟩, fun h => ⟨h.1, h.2.1, h.2.2⟩⟩

instance (e : Event) : Decidable e.IsStorable :=
  decidable_of_iff _ isStorable_iff.symm

theorem IsStorable.identified {e : Event} (h : e.IsStorable) (fresh : String) :
    (e.identified fresh).IsStorable := by
  rw [Event.identified]
  split
  · exact ⟨h.startTime, h.endTime, h.isInterval⟩
  · exact h

end Event

namespace Database.EventRow

variable {e other : Event} {first last now before : Instant}

theorem isValid_ofEvent (h : e.IsStorable) : (ofEvent e).isValid = true := by
  have hstart : microsOf e.startTime < microsOf e.endTime :=
    (Instant.lt_iff h.startTime h.endTime).mp h.isInterval
  simp [isValid, ofEvent, hstart]

/-- A row reads back. -/
theorem eventOfRow_ofEvent (h : e.IsStorable) :
    DatabaseStore.eventOfRow (ofEvent e).values = .ok e := by
  have hstart : DatabaseStore.timeAt (ofEvent e).values 4 "start_time" = .ok e.startTime := by
    simp [DatabaseStore.timeAt, values, ofEvent, Instant.instantOf?_microsOf h.startTime]
  have hend : DatabaseStore.timeAt (ofEvent e).values 5 "end_time" = .ok e.endTime := by
    simp [DatabaseStore.timeAt, values, ofEvent, Instant.instantOf?_microsOf h.endTime]
  have hlt := e.notifyBefore.toNat_lt
  have hnotice : 0 ≤ (e.notifyBefore.toNat : Int) ∧ (e.notifyBefore.toNat : Int) < 4294967296 := by
    omega
  -- The columns are read in this order.
  refine bind_eq_ok.mpr ⟨e.notifyBefore.toNat, rfl, bind_eq_ok.mpr ⟨e.id, rfl, ?_⟩⟩
  refine bind_eq_ok.mpr ⟨e.userId, rfl, bind_eq_ok.mpr ⟨e.title, rfl, ?_⟩⟩
  refine bind_eq_ok.mpr ⟨e.description, rfl, bind_eq_ok.mpr ⟨e.startTime, hstart, ?_⟩⟩
  refine bind_eq_ok.mpr ⟨e.endTime, hend, ?_⟩
  rw [if_pos hnotice, Int.toNat_natCast, UInt32.ofNat_toNat]
  rfl

/-- Some rows read back. -/
theorem mapM_eventOfRow {es : List Event} (h : ∀ e ∈ es, e.IsStorable) :
    ((es.map ofEvent).map values).mapM DatabaseStore.eventOfRow = .ok es := by
  induction es with
  | nil => rfl
  | cons e es ih =>
      rw [List.map_cons, List.map_cons, List.mapM_cons,
        eventOfRow_ofEvent (h e List.mem_cons_self), ih fun e h' => h e (List.mem_cons_of_mem _ h')]
      rfl

/-- Rows overlap if their events do. -/
theorem meets_ofEvent (he : e.IsStorable) (ho : other.IsStorable) :
    (ofEvent other).meets (microsOf e.startTime) (microsOf e.endTime) = e.overlaps other := by
  rw [Event.overlaps, intervalsOverlap, Instant.decide_lt he.startTime ho.endTime,
    Instant.decide_lt ho.startTime he.endTime, Bool.and_comm]
  rfl

/-- Rows are listed in the order of their events. -/
theorem listedBefore_ofEvent (he : e.IsStorable) (ho : other.IsStorable) :
    e.listedBefore other = (ofEvent e).listedBefore (ofEvent other) := by
  have heq : (e.startTime == other.startTime) =
      (microsOf e.startTime == microsOf other.startTime) := by
    rw [Bool.eq_iff_iff, beq_iff_eq, beq_iff_eq]
    exact ⟨fun h => by rw [h], Instant.eq_of_microsOf_eq he.startTime ho.startTime⟩
  rw [Event.listedBefore, heq, Instant.decide_lt he.startTime ho.startTime]
  rfl

theorem endedBefore_ofEvent (he : e.IsStorable) (hlast : last.IsStorable) :
    decide ((ofEvent e).endTime < microsOf last) = e.endedBefore last := by
  rw [Event.endedBefore, Instant.decide_lt he.endTime hlast]
  rfl

theorem intersectsRange_ofEvent (he : e.IsStorable) (hfirst : first.IsStorable)
    (hlast : last.IsStorable) :
    (!((ofEvent e).endTime ≤ microsOf first || microsOf last ≤ (ofEvent e).startTime)) =
      e.intersectsRange first last := by
  rw [Event.intersectsRange, Instant.decide_le he.endTime hfirst,
    Instant.decide_le hlast he.startTime]
  rfl

/-- The notification of a row is due when that of its event is. -/
theorem isDue_ofEvent (he : e.IsStorable) (hnow : now.IsStorable) (hbefore : before.IsStorable) :
    (microsOf now < (ofEvent e).startTime && microsOf now < (ofEvent e).notifyAt &&
      (ofEvent e).notifyAt ≤ microsOf before) = e.isDue now before := by
  have hnotifyAt : e.notifyAt = instantOf? (ofEvent e).notifyAt :=
    Instant.shift?_eq he.startTime e.notifyBefore.toNat
  cases ht : instantOf? (ofEvent e).notifyAt with
  | none =>
      -- There is no such instant, so it would come before all that can be stored.
      have hle : microsOf e.startTime - e.notifyBefore.toNat * 1000000 ≤ microsOf e.startTime := by
        omega
      have hlt := Instant.lt_of_instantOf?_eq_none ht he.startTime hle hnow
      rw [Event.isDue, hnotifyAt, ht]
      simp [Int.not_lt.mpr (Int.le_of_lt hlt)]
  | some t =>
      have hstorable : t.IsStorable := ⟨_, ht⟩
      rw [Event.isDue, hnotifyAt, ht, ← Instant.microsOf_of_instantOf? ht]
      simp only [Instant.decide_lt hnow he.startTime, Instant.decide_lt hnow hstorable,
        Instant.decide_le hstorable hbefore]
      rfl

end Database.EventRow

/-! ### The rows of some events -/

namespace Database.Table

/-- The rows of some events. -/
def ofEvents (es : List Event) : Table :=
  es.map EventRow.ofEvent

variable {es : List Event} {e : Event}

theorem mem_ofEvents {r : EventRow} : r ∈ ofEvents es ↔ ∃ e ∈ es, EventRow.ofEvent e = r :=
  List.mem_map

theorem insert_ofEvents : (ofEvents es).change (.insert (.ofEvent e)) = ofEvents (es ++ [e]) := by
  rw [ofEvents, ofEvents, List.map_append]
  rfl

theorem replace_ofEvents :
    (ofEvents es).change (.replace (.ofEvent e)) =
      ofEvents (es.map fun x => if x.id = e.id then e else x) := by
  rw [ofEvents, ofEvents, change, List.map_map, List.map_map]
  refine List.map_congr_left fun x _ => ?_
  show (if x.id = e.id then EventRow.ofEvent e else EventRow.ofEvent x) =
    EventRow.ofEvent (if x.id = e.id then e else x)
  exact (apply_ite EventRow.ofEvent _ _ _).symm

/-- Selecting rows selects their events. -/
theorem filter_ofEvents {q : EventRow → Bool} {p : Event → Bool}
    (h : ∀ e ∈ es, q (.ofEvent e) = p e) : (ofEvents es).filter q = ofEvents (es.filter p) := by
  rw [ofEvents, List.filter_map]
  exact congrArg (List.map _) (List.filter_congr h)

theorem countP_ofEvents {q : EventRow → Bool} {p : Event → Bool}
    (h : ∀ e ∈ es, q (.ofEvent e) = p e) : (ofEvents es).countP q = es.countP p := by
  rw [List.countP_eq_length_filter, filter_ofEvents h, ofEvents, List.length_map,
    List.countP_eq_length_filter]

/-- Listing rows lists their events. -/
theorem sorted_ofEvents (h : ∀ e ∈ es, e.IsStorable) :
    (ofEvents es).sorted = ofEvents (Event.sort es) := by
  have horder : ∀ e ∈ es, ∀ other ∈ es,
      e.listedBefore other = (EventRow.ofEvent e).listedBefore (EventRow.ofEvent other) :=
    fun e he other ho => EventRow.listedBefore_ofEvent (h e he) (h other ho)
  exact (List.map_mergeSort horder).symm

end Database.Table

end Reminders
