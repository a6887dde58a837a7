import Reminders.Proofs.Scheduler.Retention
import Reminders.Proofs.Scheduler.Tick
import Reminders.Proofs.Time.Nanos

/-!
# Scheduler — decisions at the ends of time

The window of a tick may be longer than time, its cutoff may lie before all time, and so may the
notice of an event.  The scheduler then goes by the last instant, by the first one, or by no notice
at all.  None of this shows: a tick decides as if instants were unbounded integers.

* `Event.isDue_later_iff`, `Event.endedBefore_earlier_iff`: the two decisions.
* `watched_tick_overMemory`: the events that a tick lists and removes.
* `ticks_decide_exactly`: both together, for every tick.
-/

namespace Reminders

namespace Event

variable {e : Event} {now : Instant}

/-- The nanoseconds at which the notice of an event falls, whether there is such an instant or
not. -/
def noticeNanos (e : Event) : Int :=
  e.startTime.nanos - e.notifyBefore.toNat * 1000000000

theorem notifyAt_eq_some_iff {t : Instant} (he : e.startTime.IsRegular) :
    e.notifyAt = some t ↔ t.IsRegular ∧ t.nanos = e.noticeNanos := by
  have hmove : e.startTime.nanos + -((e.notifyBefore.toNat * 1000000000 : Nat) : Int) =
      e.noticeNanos := by
    rw [noticeNanos]
    omega
  rw [notifyAt, Instant.shift?_eq_some_iff he, hmove]

/-- A notice that is no instant falls before all of them. -/
theorem noticeNanos_lt_of_notifyAt_eq_none (he : e.startTime.IsRegular) (h : e.notifyAt = none) :
    e.noticeNanos < Instant.earliest.nanos := by
  have hupper := Instant.nanos_le_latest he
  have hpast := Instant.of_shift?_eq_none he h
  rw [noticeNanos]
  omega

/-- **Due exactly.**  An event is due in a window that may stop at the end of time exactly if its
notice comes after the start of the window and does not exceed its exact end. -/
theorem isDue_later_iff (hnow : now.IsRegular) (he : e.startTime.IsRegular) (n : Nat) :
    e.isDue now (now.later n) = true ↔
      now.nanos < e.noticeNanos ∧ e.noticeNanos ≤ now.nanos + n := by
  cases h : e.notifyAt with
  | some t =>
      obtain ⟨ht, hnotice⟩ := (notifyAt_eq_some_iff he).mp h
      rw [isDue_iff h, Instant.lt_iff_nanos_lt hnow ht, Instant.le_later_iff hnow ht, hnotice]
  | none =>
      have hbefore := noticeNanos_lt_of_notifyAt_eq_none he h
      have hstart := Instant.nanos_earliest_le hnow
      rw [isDue, h]
      exact iff_of_false Bool.false_ne_true (by omega)

/-- **Ended exactly.**  An event ended before a cutoff that may stop at the start of time exactly if
it did so by the exact difference. -/
theorem endedBefore_earlier_iff (hnow : now.IsRegular) (he : e.endTime.IsRegular) (n : Nat) :
    e.endedBefore (now.earlier n) = true ↔ e.endTime.nanos + n < now.nanos := by
  rw [endedBefore, decide_eq_true_iff, Instant.lt_earlier_iff hnow he]

end Event

namespace Scheduler

variable {κ : Type} (channel : NotificationChannel (StateM κ)) (config : SchedulerConfig)

/-- A tick over a store in memory lists what is due there, and leaves the store without what ended
before its cutoff. -/
theorem watched_tick_overMemory (now : Instant) (s : MemoryStore) (log : List Call) (k : κ) :
    ∃ results removed calls report k',
      (overMemory channel config).tick now (s, k) =
        (report, (s.purge (config.cutoff now), k')) ∧
      (overMemory channel config).watched.tick now log (s, k) =
        ((report, log ++ calls), (s.purge (config.cutoff now), k')) ∧
      Ticks config now (.ok (s.collect fun e => e.isDue now (config.windowEnd now))) results
        (.ok removed) calls report := by
  obtain ⟨results, _, k', hlogged⟩ := remindAll_overMemory channel config now
    (s.collect fun e => e.isDue now (config.windowEnd now)) [] k
  obtain ⟨_, hplain⟩ := (overMemory channel config).remindAll_logged_eq now
    (s.collect fun e => e.isDue now (config.windowEnd now)) [] (s, k)
  have hremind : (overMemory channel config).remindAll now
      (s.collect fun e => e.isDue now (config.windowEnd now)) (s, k) = (results, (s, k')) := by
    rw [hlogged s] at hplain
    exact Prod.ext (congrArg (·.1.1) hplain).symm (congrArg Prod.snd hplain).symm
  have hlist : (overMemory channel config).store.listDueBefore now (config.windowEnd now) (s, k) =
      (.ok (s.collect fun e => e.isDue now (config.windowEnd now)), (s, k)) := rfl
  obtain ⟨calls, report, htick, hwatched, hticks⟩ := watched_tick_of_eq hlist hremind rfl log
  exact ⟨results, _, calls, report, k', htick, hwatched, hticks⟩

/-- **Ticks decide exactly.**  Let the reading of a tick lie in no leap second, and let the interval
and the retention period be any lengths of time.  An event whose start lies in no leap second is due
at the tick exactly if its notice comes after the reading and not more than the interval after it,
and an event whose end lies in none has outlived its retention exactly if it ended more than the
retention period before the reading, both reckoned in unbounded integers.  These are the events that
a tick over a store in memory announces and removes. -/
theorem ticks_decide_exactly {now : Instant} (hnow : now.IsRegular) :
    (∀ e : Event, e.startTime.IsRegular →
      (e.isDue now (config.windowEnd now) = true ↔
        now.nanos < e.startTime.nanos - e.notifyBefore.toNat * 1000000000 ∧
          e.startTime.nanos - e.notifyBefore.toNat * 1000000000 ≤ now.nanos + config.interval)) ∧
    (∀ e : Event, e.endTime.IsRegular →
      (e.endedBefore (config.cutoff now) = true ↔
        e.endTime.nanos + config.retention < now.nanos)) ∧
    ∀ (s : MemoryStore) (k : κ) (log : List Call),
      ∃ es results removed calls report s' k',
        (overMemory channel config).tick now (s, k) = (report, (s', k')) ∧
        (overMemory channel config).watched.tick now log (s, k) =
          ((report, log ++ calls), (s', k')) ∧
        Ticks config now (.ok es) results (.ok removed) calls report ∧
        (∀ e ∈ es, ∃ id, s.Stores id e) ∧
        (∀ id e, s.Stores id e → e.startTime.IsRegular →
          (e ∈ es ↔ now.nanos < e.startTime.nanos - e.notifyBefore.toNat * 1000000000 ∧
            e.startTime.nanos - e.notifyBefore.toNat * 1000000000 ≤
              now.nanos + config.interval)) ∧
        (∀ id e, s'.Stores id e → s.Stores id e) ∧
        (∀ id e, s.Stores id e → e.endTime.IsRegular →
          (s'.Stores id e ↔ ¬ e.endTime.nanos + config.retention < now.nanos)) := by
  have hdue : ∀ e : Event, e.startTime.IsRegular →
      (e.isDue now (config.windowEnd now) = true ↔ _) := fun e he =>
    Event.isDue_later_iff hnow he config.interval
  have hended : ∀ e : Event, e.endTime.IsRegular →
      (e.endedBefore (config.cutoff now) = true ↔ _) := fun e he =>
    Event.endedBefore_earlier_iff hnow he config.retention
  refine ⟨hdue, hended, fun s k log => ?_⟩
  obtain ⟨results, removed, calls, report, k', htick, hwatched, hticks⟩ :=
    watched_tick_overMemory channel config now s log k
  refine ⟨_, results, removed, calls, report, _, k', htick, hwatched, hticks,
    fun e he => (MemoryStore.mem_collect.mp he).1, fun id e he hstart => ?_,
    fun id e he => (MemoryStore.stores_purge.mp he).1, fun id e he hend => ?_⟩
  · rw [MemoryStore.mem_collect]
    exact (and_iff_right ⟨id, he⟩).trans (hdue e hstart)
  · rw [MemoryStore.stores_purge, ← hended e hend, Bool.not_eq_true]
    exact and_iff_right he

/-- The interval and the retention period are longer than time. -/
def endless : SchedulerConfig where
  interval := 18446744073709551615 * 1000000000 + 999999999
  retention := 18446744073709551615 * 1000000000 + 999999999

/-- The start of the last hour of time. -/
def lastHour : Instant :=
  ⟨8210266873200 * 2000000000, by decide, by decide⟩

/-- The first hour of time, for whose notice there is no instant left. -/
def firstEvent : Event where
  id := "a"
  userId := "u1"
  title := "Meeting"
  description := ""
  startTime := .earliest
  endTime := ⟨-8334601225200 * 2000000000, by decide, by decide⟩
  notifyBefore := 1

/-- The last second of time, whose notice is due at its start. -/
def lastEvent : Event where
  id := "b"
  userId := "u1"
  title := "Meeting"
  description := ""
  startTime := ⟨8210266876799 * 2000000000, by decide, by decide⟩
  endTime := .latest
  notifyBefore := 0

def firstAndLast : MemoryStore :=
  (MemoryStore.empty.put firstEvent).put lastEvent

theorem firstAndLast_stores_first : firstAndLast.Stores "a" firstEvent :=
  MemoryStore.stores_put.mpr (.inr ⟨by decide, MemoryStore.stores_put.mpr (.inl ⟨rfl, rfl⟩)⟩)

theorem firstAndLast_stores_last : firstAndLast.Stores "b" lastEvent :=
  MemoryStore.stores_put.mpr (.inl ⟨rfl, rfl⟩)

/-- A tick whose window stops at the end of time announces the last event and not the first one; its
cutoff stops at the start of time, and it removes nothing. -/
theorem endless_tick_announces_last_event :
    lastHour.IsRegular ∧ endless.windowEnd lastHour = .latest ∧
      endless.cutoff lastHour = .earliest ∧ firstEvent.notifyAt = none ∧
      ∃ es results removed calls report s' c',
        (overMemory MemoryChannel.channel endless).watched.tick lastHour []
            (firstAndLast, .ofBindings "notifications" []) = ((report, calls), (s', c')) ∧
        Ticks endless lastHour (.ok es) results (.ok removed) calls report ∧
        lastEvent ∈ es ∧ firstEvent ∉ es ∧
        s'.Stores "a" firstEvent ∧ s'.Stores "b" lastEvent := by
  have hnow : lastHour.IsRegular := by decide
  obtain ⟨_, _, htick⟩ := ticks_decide_exactly MemoryChannel.channel endless hnow
  obtain ⟨es, results, removed, calls, report, s', c', _, hwatched, hticks, _, hdue, _, hkept⟩ :=
    htick firstAndLast (.ofBindings "notifications" []) []
  refine ⟨hnow, by decide, by decide, by decide, es, results, removed, calls, report, s', c',
    hwatched, hticks, ?_, ?_, ?_, ?_⟩
  · exact (hdue "b" lastEvent firstAndLast_stores_last (by decide)).mpr (by decide)
  · exact fun hfirst =>
      absurd ((hdue "a" firstEvent firstAndLast_stores_first (by decide)).mp hfirst) (by decide)
  · exact (hkept "a" firstEvent firstAndLast_stores_first (by decide)).mpr (by decide)
  · exact (hkept "b" lastEvent firstAndLast_stores_last (by decide)).mpr (by decide)

end Scheduler

end Reminders
