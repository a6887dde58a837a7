import Reminders.Proofs.Scheduler.Run

/-!
# Scheduler — reminders that are requested between two ticks

While a scheduler ticks, clients write events.  An event can be announced only by a tick that comes
after it was written and reads an instant before its notice.  If the first tick after it was written
comes too late, the window into which the notice falls is that of a tick that did not see the event
yet.  Where the ticks are exactly one interval apart, an event is missed in no other way.

* `follow_written`: what is published before and after an event is written.
* `announced_if_read_in_time`: what becomes of an event that is written while the scheduler ticks.
* `notice_at_next_tick_is_missed`: an event that is written after one tick and asks for a notice at
  the next one.
-/

namespace Reminders

/-- What happens around a scheduler: a tick, or an operation that a client performs at an
instant. -/
inductive Happening where
  | tick (now : Instant)
  | operation (time : Instant) (op : StoreOperation)

namespace Happening

/-- When it happens. -/
def time : Happening → Instant
  | .tick now => now
  | .operation time _ => time

/-- The reading of a tick. -/
def reading? : Happening → Option Instant
  | .tick now => some now
  | .operation _ _ => none

/-- The readings of the ticks. -/
def readings (course : List Happening) : List Instant :=
  course.filterMap reading?

theorem readings_append_operation (early late : List Happening) (time : Instant)
    (op : StoreOperation) :
    readings (early ++ .operation time op :: late) = readings early ++ readings late :=
  List.filterMap_append

end Happening

namespace Scheduler

/-- Goes through what happens. -/
def follow {m : Type → Type} [Monad m] (s : Scheduler m) : List Happening → m Unit
  | [] => pure ()
  | .tick now :: course => do
    let _ ← s.tick now
    follow s course
  | .operation _ op :: course => do
    let _ ← s.store.perform op
    follow s course

theorem follow_append {m : Type → Type} [Monad m] [LawfulMonad m] (s : Scheduler m)
    (early late : List Happening) :
    s.follow (early ++ late) = s.follow early >>= fun _ => s.follow late := by
  induction early with
  | nil => simp [follow]
  | cons happening early ih => cases happening <;> simp [follow, ih]

variable {σ : Type} {s : Scheduler (StateM σ)} {inv : σ → Prop} {e : Event}

theorem perform_logged_store (op : StoreOperation) (log : List Attempt) (w : σ) :
    s.logged.store.perform op log w =
      (((s.store.perform op w).1, log), (s.store.perform op w).2) := by
  cases op <;> rfl

/-- Operations of clients publish nothing. -/
theorem follow_operation (s : Scheduler (StateM σ)) (time : Instant) (op : StoreOperation)
    (course : List Happening) (log : List Attempt) (w : σ) :
    s.logged.follow (.operation time op :: course) log w =
      s.logged.follow course log (s.store.perform op w).2 :=
  bind_of_eq_pure₂ (perform_logged_store op log w)

/-- A log changes nothing else about what happens. -/
theorem follow_logged_eq (s : Scheduler (StateM σ)) (course : List Happening) (log : List Attempt)
    (w : σ) : ∃ log', s.logged.follow course log w = (((), log'), (s.follow course w).2) := by
  induction course generalizing log w with
  | nil => exact ⟨log, rfl⟩
  | cons happening course ih =>
      cases happening with
      | tick now =>
          obtain ⟨log₁, htick⟩ := s.tick_logged_eq now log w
          obtain ⟨log', h⟩ := ih log₁ (s.tick now w).2
          exact ⟨log', (bind_of_eq_pure₂ htick).trans h⟩
      | operation time op =>
          obtain ⟨log', h⟩ := ih log (s.store.perform op w).2
          exact ⟨log', (s.follow_operation time op course log w).trans h⟩

/-- Every operation of a client leads to a state of the invariant. -/
def Keeps (s : Scheduler (StateM σ)) (inv : σ → Prop) : List Happening → σ → Prop
  | [], _ => True
  | .tick now :: course, w => Keeps s inv course (s.tick now w).2
  | .operation _ op :: course, w =>
    inv (s.store.perform op w).2 ∧ Keeps s inv course (s.store.perform op w).2

/-- While the operations of clients keep an event, the ticks announce what is due. -/
theorem follow_logged {course : List Happening} (hs : s.Serves inv e (Happening.readings course))
    (log : List Attempt) {w : σ} (hw : inv w) (hkeeps : s.Keeps inv course w) :
    ∃ (ticks : List (Instant × List Event)) (w' : σ),
      ticks.map Prod.fst = Happening.readings course ∧
      (∀ tick ∈ ticks, s.Announces e tick.1 tick.2) ∧
      s.logged.follow course log w =
        (((), log ++ ticks.flatMap fun tick => tick.2.map (Event.announcement tick.1)), w') := by
  induction course generalizing log w with
  | nil => exact ⟨[], w, rfl, by simp, by rw [List.flatMap_nil, List.append_nil]; rfl⟩
  | cons happening course ih =>
      cases happening with
      | tick now =>
          have hlater : s.Serves inv e (Happening.readings course) :=
            { hs with purges := fun now h => hs.purges now (List.mem_cons_of_mem _ h) }
          obtain ⟨es, report, w₁, hes, hw₁, htick⟩ := tick_logged hs List.mem_cons_self log hw
          obtain ⟨_, htick'⟩ := s.tick_logged_eq now log w
          obtain rfl : w₁ = (s.tick now w).2 := congrArg Prod.snd (htick.symm.trans htick')
          obtain ⟨ticks, w', hticks, hannounces, hfollow⟩ :=
            ih hlater (log ++ es.map (Event.announcement now)) hw₁ hkeeps
          refine ⟨(now, es) :: ticks, w', by rw [List.map_cons, hticks]; rfl,
            List.forall_mem_cons.mpr ⟨hes, hannounces⟩, ?_⟩
          refine (bind_of_eq_pure₂ htick).trans ?_
          rw [hfollow, List.flatMap_cons, List.append_assoc]
      | operation time op =>
          obtain ⟨ticks, w', hticks, hannounces, hfollow⟩ := ih hs log hkeeps.1 hkeeps.2
          exact ⟨ticks, w', hticks, hannounces,
            (s.follow_operation time op course log w).trans hfollow⟩

/-- What is published after an event is written. -/
theorem follow_written {early late : List Happening} {c : Instant} {write : StoreOperation} {w : σ}
    (hs : s.Serves inv e (Happening.readings late))
    (hkeeps : s.Keeps inv (.operation c write :: late) (s.follow early w).2) :
    ∃ ticks : List (Instant × List Event),
      ticks.map Prod.fst = Happening.readings late ∧
      (∀ tick ∈ ticks, s.Announces e tick.1 tick.2) ∧
      (s.logged.follow (early ++ .operation c write :: late) [] w).1.2 =
        (s.logged.follow (early ++ [.operation c write]) [] w).1.2 ++
          ticks.flatMap fun tick => tick.2.map (Event.announcement tick.1) := by
  obtain ⟨log, hearly⟩ := s.follow_logged_eq early [] w
  obtain ⟨ticks, w', hreadings, hticks, hlate⟩ := follow_logged hs log hkeeps.1 hkeeps.2
  refine ⟨ticks, hreadings, hticks, ?_⟩
  have hwhole : (s.logged.follow (early ++ .operation c write :: late) [] w) =
      (((), log ++ ticks.flatMap fun tick => tick.2.map (Event.announcement tick.1)), w') := by
    rw [follow_append, bind_of_eq_pure₂ hearly, follow_operation, hlate]
  have hwritten : (s.logged.follow (early ++ [.operation c write]) [] w) =
      (((), log), (s.store.perform write (s.follow early w).2).2) := by
    rw [follow_append, bind_of_eq_pure₂ hearly, follow_operation]
    rfl
  rw [hwhole, hwritten]

/-- **Reminders that are requested between two ticks.**  Let a store and a channel never fail, let
the ticks be exactly one interval apart, each of them where the window of the one before ends, and
go on until an event asks for its notice, and let a client write the event among them and no one
change it afterwards.  If some tick after that reads an instant before the notice, then one of them
announces the event before the notice.  If the first tick after it already reads the instant of the
notice or a later one, none of them does. -/
theorem announced_if_read_in_time {t : Instant} (ht : e.notifyAt = some t)
    {early late : List Happening} {c : Instant} {write : StoreOperation} {w : σ}
    (hs : s.Serves inv e (Happening.readings late))
    (hkeeps : s.Keeps inv (.operation c write :: late) (s.follow early w).2)
    (hreadings : (Happening.readings (early ++ .operation c write :: late)).IsChain
      fun now next => now < next ∧ next = s.config.windowEnd now) {last : Instant}
    (hlast : (Happening.readings (early ++ .operation c write :: late)).getLast? = some last)
    (hupto : t ≤ s.config.windowEnd last) :
    (∀ now, s.config.HasBounds now) ∧
    ∃ log,
      (s.logged.follow (early ++ .operation c write :: late) [] w).1.2 =
        (s.logged.follow (early ++ [.operation c write]) [] w).1.2 ++ log ∧
      ((∃ now ∈ Happening.readings late, now < t) →
        ∃ now ∈ Happening.readings late, now < t ∧ e.announcement now ∈ log) ∧
      ((∀ first ∈ (Happening.readings late).head?, t ≤ first) →
        ∀ now, e.announcement now ∉ log) := by
  obtain ⟨ticks, hticks, hannounces, hfollow⟩ := follow_written hs hkeeps
  refine ⟨s.config.hasBounds, _, hfollow, ?_⟩
  rw [Happening.readings_append_operation] at hreadings hlast
  have hlate := hreadings.right_of_append
  generalize hrest : Happening.readings late = readings at hlate hlast hticks ⊢
  cases readings with
  | nil =>
      obtain rfl := List.map_eq_nil_iff.mp hticks
      simp
  | cons first readings =>
      have hleast : ∀ now ∈ first :: readings, first ≤ now :=
        fun now => Instant.head_le_of_isChain (hlate.imp fun _ _ h => h.1)
      rw [List.getLast?_append_cons] at hlast
      constructor
      · rintro ⟨now, hnow, hbefore⟩
        have hcount := SchedulerConfig.one_le_countP_inWindow
          (hlate.imp fun _ _ h => Int.le_of_eq (congrArg Instant.rank h.2)) hlast
          (Int.lt_of_le_of_lt (hleast now hnow) hbefore) (.inr hupto)
        obtain ⟨now, hnow, hin⟩ := List.countP_pos_iff.mp hcount
        have hin : s.config.InWindow now t := of_decide_eq_true hin
        exact ⟨now, hnow, hin.1, announcement_mem ht hannounces (hticks ▸ hnow) hin⟩
      · intro hfirst now hannounced
        obtain ⟨now, hnow, hin⟩ := exists_inWindow_of_announcement_mem ht hannounces hannounced
        rw [hticks] at hnow
        exact Int.not_le.mpr hin.1 (Int.le_trans (hfirst first rfl) (hleast now hnow))

/-- A tick in memory that finds nothing publishes nothing. -/
theorem tick_of_none_due (config : SchedulerConfig) (now : Instant) {s : MemoryStore}
    (hnone : ∀ id e, s.Stores id e → e.isDue now (config.windowEnd now) = false)
    (log : List Attempt) (c : MemoryChannel) :
    ∃ report, (inMemory config).logged.tick now log (s, c) =
      ((report, log), (s.purge (config.cutoff now), c)) := by
  have hdue : (s.collect fun e => e.isDue now (config.windowEnd now)) = [] :=
    MemoryStore.collect_eq_nil.mpr hnone
  have hlist := (inMemory config).logged_listDueBefore now (config.windowEnd now) log (s, c)
  rw [show ((inMemory config).store.listDueBefore now (config.windowEnd now) (s, c)).1 = .ok [] from
    congrArg Except.ok hdue] at hlist
  exact ⟨_, (bind_of_eq_pure₂ hlist).trans rfl⟩

/-- An event whose notice is due five minutes before this second. -/
def requestedMeeting (start : Fin 86400) : Event :=
  MemoryStore.sampleEvent "a" "u1" start 900

/-- The request for such an event, which has no id yet. -/
def request (start : Fin 86400) : StoreOperation :=
  .create "a" (MemoryStore.sampleEvent "" "u1" start 900)

/-- Two ticks a minute apart. -/
def twoTicks : List Happening :=
  [.tick (secondOfDay 120), .tick (secondOfDay 180)]

/-- An event is requested ten seconds after a tick, and two more ticks follow. -/
def arrival (start : Fin 86400) : List Happening :=
  [.tick (secondOfDay 60)] ++ .operation (secondOfDay 70) (request start) :: twoTicks

/-- No event and no message. -/
def emptyState : MemoryStore × MemoryChannel :=
  (.empty, .ofBindings "notifications" [])

/-- The first tick finds nothing and publishes nothing. -/
theorem follow_first_tick :
    (inMemory {}).logged.follow [.tick (secondOfDay 60)] [] emptyState =
      (((), []), emptyState) := by
  obtain ⟨report, htick⟩ := tick_of_none_due {} (secondOfDay 60)
    (fun _ _ h => absurd h MemoryStore.not_stores_empty) [] emptyState.2
  have hpurge : MemoryStore.empty.purge (SchedulerConfig.cutoff {} (secondOfDay 60)) = .empty :=
    MemoryStore.ext_stores fun _ _ => by
      simp [MemoryStore.stores_purge, MemoryStore.not_stores_empty]
  rw [hpurge] at htick
  exact bind_of_eq_pure₂ htick

theorem keeps_arrival (start : Fin 86400) :
    (inMemory {}).Keeps (Awaits (requestedMeeting start))
      (.operation (secondOfDay 70) (request start) :: twoTicks)
      ((inMemory {}).follow [.tick (secondOfDay 60)] emptyState).2 := by
  have hcreate : MemoryStore.empty.create "a" (MemoryStore.sampleEvent "" "u1" start 900) =
      (.ok "a", MemoryStore.empty.put (requestedMeeting start)) :=
    MemoryStore.create_of_admits (fun _ => MemoryStore.not_stores_empty)
      fun _ _ h => absurd h MemoryStore.not_stores_empty
  obtain ⟨_, htick⟩ := (inMemory {}).follow_logged_eq [.tick (secondOfDay 60)] [] emptyState
  rw [follow_first_tick] at htick
  have hafter : ((inMemory {}).store.perform (request start) emptyState).2 =
      (MemoryStore.empty.put (requestedMeeting start), emptyState.2) :=
    congrArg (fun r => (r.2, emptyState.2)) hcreate
  rw [← congrArg Prod.snd htick]
  refine ⟨?_, trivial⟩
  rw [hafter]
  exact ⟨MemoryStore.WellKept.empty.put (show "a" ≠ "" by decide)
      fun _ _ h => absurd h MemoryStore.not_stores_empty,
    MemoryStore.stores_put.mpr (.inl ⟨rfl, rfl⟩), rfl⟩

/-- The second of three ticks finds the event, which asks for its notice after the third one. -/
theorem requestedMeeting_is_announced :
    (requestedMeeting 500).notifyAt = some (secondOfDay 200) ∧
      (inMemory {}).Serves (Awaits (requestedMeeting 500)) (requestedMeeting 500)
        (Happening.readings twoTicks) ∧
      (Happening.readings (arrival 500)).IsChain
        (fun now next => now < next ∧ next = SchedulerConfig.windowEnd {} now) ∧
      ∃ now ∈ Happening.readings twoTicks, now < secondOfDay 200 ∧
        (requestedMeeting 500).announcement now ∈
          ((inMemory {}).logged.follow (arrival 500) [] emptyState).1.2 := by
  have hserves : (inMemory {}).Serves (Awaits (requestedMeeting 500)) (requestedMeeting 500)
      (Happening.readings twoTicks) :=
    serves_inMemory {} (by decide)
  have hchain : (Happening.readings (arrival 500)).IsChain
      (fun now next => now < next ∧ next = SchedulerConfig.windowEnd {} now) := by
    decide
  obtain ⟨_, log, hlog, hannounced, _⟩ := announced_if_read_in_time (e := requestedMeeting 500)
    (t := secondOfDay 200) (by decide) hserves (keeps_arrival 500) hchain
    (show _ = some (secondOfDay 180) from rfl) (by decide)
  obtain ⟨now, hnow, hbefore, hmem⟩ := hannounced ⟨secondOfDay 120, by decide, by decide⟩
  exact ⟨by decide, hserves, hchain, now, hnow, hbefore,
    hlog ▸ List.mem_append_right _ hmem⟩

/-- **A notice at the next tick.**  Ticks come at seconds 60, 120 and 180.  At second 70 a client
asks for a notice at second 120.  The window into which it falls is that of the first tick, which
found nothing yet, and no tick announces it. -/
theorem notice_at_next_tick_is_missed :
    (requestedMeeting 420).notifyAt = some (secondOfDay 120) ∧
      (inMemory {}).Serves (Awaits (requestedMeeting 420)) (requestedMeeting 420)
        (Happening.readings twoTicks) ∧
      (inMemory {}).Keeps (Awaits (requestedMeeting 420))
        (.operation (secondOfDay 70) (request 420) :: twoTicks)
        ((inMemory {}).follow [.tick (secondOfDay 60)] emptyState).2 ∧
      (Happening.readings (arrival 420)).IsChain
        (fun now next => now < next ∧ next = SchedulerConfig.windowEnd {} now) ∧
      ((arrival 420).map Happening.time).IsChain (· ≤ ·) ∧
      secondOfDay 60 ≤ secondOfDay 70 ∧ secondOfDay 70 < secondOfDay 120 ∧
      ∀ now, (requestedMeeting 420).announcement now ∉
        ((inMemory {}).logged.follow (arrival 420) [] emptyState).1.2 := by
  have hserves : (inMemory {}).Serves (Awaits (requestedMeeting 420)) (requestedMeeting 420)
      (Happening.readings twoTicks) :=
    serves_inMemory {} (by decide)
  have hnotify : (requestedMeeting 420).notifyAt = some (secondOfDay 120) := by decide
  refine ⟨hnotify, hserves, keeps_arrival 420, by decide, by decide, by decide, by decide,
    fun now hannounced => ?_⟩
  obtain ⟨ticks, hticks, hannounces, hfollow⟩ := follow_written hserves (keeps_arrival 420)
  have hwritten : ((inMemory {}).logged.follow ([.tick (secondOfDay 60)] ++
      [.operation (secondOfDay 70) (request 420)]) [] emptyState).1.2 = [] := by
    rw [follow_append, bind_of_eq_pure₂ follow_first_tick, follow_operation]
    rfl
  rw [arrival, hfollow, hwritten, List.nil_append] at hannounced
  obtain ⟨now', hnow', hin⟩ := exists_inWindow_of_announcement_mem hnotify hannounces hannounced
  rw [hticks] at hnow'
  revert now'
  decide

end Scheduler

end Reminders
