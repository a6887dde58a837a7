import Reminders.Proofs.Scheduler.Run

/-!
# Scheduler — cleanup

Each tick ends with a cleanup, which removes the events that ended longer ago than the retention
period.  An event that is removed ended before the reading of the tick, and so began before it: at
no later reading could it be due any more.  So a run publishes the same, tick by tick, as it would
without any cleanup, although the stores of the two runs drift apart.

* `Trims`: what relates the stores of the two runs.
* `tick_overMemory`, `tickUncleaned_overMemory`: one tick with and without its cleanup.
* `cleanup_suppresses_no_reminder`: what any ticks publish with and without it.
-/

namespace Reminders

/-! ### Stores of which old events are gone -/

/-- The second store holds what the first one holds, but for some events that ended before `now`. -/
structure MemoryStore.Trims (now : Instant) (s s' : MemoryStore) : Prop where
  sub : ∀ {id e}, s'.Stores id e → s.Stores id e
  keeps : ∀ {id e}, s.Stores id e → now ≤ e.endTime → s'.Stores id e

namespace MemoryStore.Trims

variable {now now' cutoff : Instant} {s s' : MemoryStore}

theorem refl (now : Instant) (s : MemoryStore) : Trims now s s where
  sub h := h
  keeps h _ := h

theorem mono (h : Trims now s s') (hle : now ≤ now') : Trims now' s s' where
  sub := h.sub
  keeps he hend := h.keeps he (Int.le_trans hle hend)

/-- A cleanup removes only events that ended before its cutoff. -/
theorem purge (h : Trims now s s') (hcutoff : cutoff ≤ now) : Trims now s (s'.purge cutoff) where
  sub he := h.sub (stores_purge.mp he).1
  keeps he hend := stores_purge.mpr
    ⟨h.keeps he hend, decide_eq_false (Int.not_lt.mpr (Int.le_trans hcutoff hend))⟩

/-- An event that ended before `now` began before `now`, and so it is not due at `now`. -/
theorem collect_due (h : Trims now s s')
    (hs : ∀ id e, s.Stores id e → e.startTime < e.endTime) (before : Instant) :
    (s'.collect fun e => e.isDue now before) = s.collect fun e => e.isDue now before := by
  refine collect_congr fun id e hdue => ⟨h.sub, fun he => h.keeps he ?_⟩
  have hstart : now < e.startTime := by
    rw [Event.isDue] at hdue
    split at hdue
    · simp only [Bool.and_eq_true, decide_eq_true_eq] at hdue
      exact hdue.1.1
    · cases hdue
  exact Int.le_of_lt (Int.lt_trans hstart (hs id e he))

end MemoryStore.Trims

namespace Scheduler

/-! ### Ticks without cleanup -/

/-- One tick without its cleanup. -/
def tickUncleaned {m : Type → Type} [Monad m] (s : Scheduler m) (now : Instant) : m TickReport := do
  let listed ← s.store.listDueBefore now (s.config.windowEnd now)
  let due := listed.toOption.getD []
  let results ← s.remindAll now due
  return report due results (.ok 0)

/-- A tick is one without cleanup, and then the cleanup, which adds its count to the report. -/
theorem tick_eq {m : Type → Type} [Monad m] [LawfulMonad m] (s : Scheduler m) (now : Instant) :
    s.tick now = do
      let report ← s.tickUncleaned now
      let purged ← s.store.deleteOlderThan (s.config.cutoff now)
      return { report with purged := purged.toOption.getD 0 } := by
  simp only [tick, tickUncleaned, bind_assoc, pure_bind]
  rfl

/-- What some ticks try to publish, tick by tick. -/
def attemptsOf {σ : Type} (tick : Instant → StateT (List Attempt) (StateM σ) TickReport) :
    List Instant → StateM σ (List (List Attempt))
  | [] => pure []
  | now :: readings => do
    let (_, log) ← tick now []
    let logs ← attemptsOf tick readings
    return log :: logs

/-! ### A store in memory beside any channel -/

section OverMemory

variable {κ : Type}

/-- A scheduler whose store is in memory. -/
def overMemory (channel : NotificationChannel (StateM κ)) (config : SchedulerConfig) :
    Scheduler (StateM (MemoryStore × κ)) where
  store := MemoryStore.store.lift fun work w => ((work w.1).1, ((work w.1).2, w.2))
  channel := channel.lift fun work w => ((work w.2).1, (w.1, (work w.2).2))
  config := config

variable (channel : NotificationChannel (StateM κ)) (config : SchedulerConfig)

variable {s s' : MemoryStore} {now : Instant} {es : List Event}
  {results : List (Except ChannelError Unit)} {log log' : List Attempt} {k k' : κ}

/-- What is published does not depend on the store. -/
theorem remindAll_overMemory (now : Instant) (es : List Event) (log : List Attempt) (k : κ) :
    ∃ results log' k', ∀ s : MemoryStore,
      (overMemory channel config).logged.remindAll now es log (s, k) =
        ((results, log'), (s, k')) := by
  induction es generalizing log k with
  | nil => exact ⟨[], log, k, fun _ => rfl⟩
  | cons e es ih =>
      let body := (Notification.forEvent e now).encode
      let published := channel.publish e.userId body k
      obtain ⟨results, log', k', hrest⟩ := ih (log ++ [⟨e.userId, body, published.1⟩]) published.2
      refine ⟨published.1 :: results, log', k', fun s => ?_⟩
      have hremind : (overMemory channel config).logged.remind now e log (s, k) =
          ((published.1, log ++ [⟨e.userId, body, published.1⟩]), (s, published.2)) :=
        rfl
      exact (bind_of_eq_pure₂ hremind).trans (bind_of_eq_pure₂ (hrest s))

theorem tickUncleaned_overMemory
    (hdue : (s.collect fun e => e.isDue now (config.windowEnd now)) = es)
    (hreminded : (overMemory channel config).logged.remindAll now es log (s, k) =
      ((results, log'), (s, k'))) :
    (overMemory channel config).logged.tickUncleaned now log (s, k) =
      ((report es results (.ok 0), log'), (s, k')) := by
  have hlisted : (overMemory channel config).logged.store.listDueBefore now (config.windowEnd now)
      log (s, k) = ((.ok es, log), (s, k)) := by
    rw [← hdue]
    rfl
  exact (bind_of_eq_pure₂ hlisted).trans (bind_of_eq_pure₂ hreminded)

theorem tick_overMemory
    (hdue : (s.collect fun e => e.isDue now (config.windowEnd now)) = es)
    (hreminded : (overMemory channel config).logged.remindAll now es log (s, k) =
      ((results, log'), (s, k'))) :
    ∃ report, (overMemory channel config).logged.tick now log (s, k) =
      ((report, log'), (s.purge (config.cutoff now), k')) := by
  rw [tick_eq]
  exact ⟨_, (bind_of_eq_pure₂ (tickUncleaned_overMemory channel config hdue hreminded)).trans rfl⟩

/-- Ticks with and without cleanup publish the same where only old events are gone. -/
theorem attemptsOf_trims {first : Instant} (h : s.Trims first s')
    (hs : ∀ id e, s.Stores id e → e.startTime < e.endTime) {readings : List Instant}
    (hreadings : (first :: readings).IsChain (· ≤ ·)) (k : κ) :
    ∃ logs k' t t',
      attemptsOf (overMemory channel config).logged.tick readings (s', k) = (logs, (t', k')) ∧
      attemptsOf (overMemory channel config).logged.tickUncleaned readings (s, k) =
        (logs, (t, k')) := by
  -- By induction on the readings: at each the two stores list the same, and the cleanup that
  -- follows removes only what ended before the reading.
  induction readings generalizing first s' k with
  | nil => exact ⟨[], k, s, s', rfl, rfl⟩
  | cons now readings ih =>
      have hnow : s.Trims now s' := h.mono hreadings.rel
      obtain ⟨results, log, k₁, hreminded⟩ := remindAll_overMemory channel config now
        (s.collect fun e => e.isDue now (config.windowEnd now)) [] k
      obtain ⟨report, htick⟩ := tick_overMemory channel config
        (hnow.collect_due hs (config.windowEnd now)) (hreminded s')
      have huncleaned := tickUncleaned_overMemory channel config rfl (hreminded s)
      obtain ⟨logs, k', t, t', hrun, hrun'⟩ :=
        ih (hnow.purge (Instant.earlier_le now config.retention)) hreadings.tail k₁
      refine ⟨log :: logs, k', t, t', ?_, ?_⟩
      · exact (bind_of_eq_pure htick).trans (bind_of_eq_pure hrun)
      · exact (bind_of_eq_pure huncleaned).trans (bind_of_eq_pure hrun')

end OverMemory

/-- **Cleanup suppresses no reminder.**  Let all events of a store in memory begin before they end,
and let the readings of some ticks never decrease.  Whatever the interval and the retention period,
and whatever the channel answers, the ticks publish the same, tick by tick, as they would without
their cleanup.  And no tick removes an event that ends at its reading or later. -/
theorem cleanup_suppresses_no_reminder {κ : Type} (channel : NotificationChannel (StateM κ))
    (config : SchedulerConfig) {s : MemoryStore}
    (hs : ∀ id e, s.Stores id e → e.startTime < e.endTime) {readings : List Instant}
    (hreadings : readings.IsChain (· ≤ ·)) (k : κ) :
    (attemptsOf (overMemory channel config).logged.tick readings (s, k)).1 =
      (attemptsOf (overMemory channel config).logged.tickUncleaned readings (s, k)).1 ∧
    ∀ (now : Instant) (log : List Attempt) (w : MemoryStore × κ) (id : String) (e : Event),
      w.1.Stores id e → now ≤ e.endTime →
        ((overMemory channel config).logged.tick now log w).2.1.Stores id e := by
  constructor
  · cases readings with
    | nil => rfl
    | cons now readings =>
        obtain ⟨logs, k', t, t', hrun, hrun'⟩ := attemptsOf_trims channel config (.refl now s) hs
          (hreadings.cons_cons (Int.le_refl now.rank)) k
        rw [hrun, hrun']
  · intro now log w id e he hend
    obtain ⟨results, log', k', hreminded⟩ := remindAll_overMemory channel config now
      (w.1.collect fun e => e.isDue now (config.windowEnd now)) log w.2
    obtain ⟨report, htick⟩ := tick_overMemory channel config rfl (hreminded w.1)
    rw [show (overMemory channel config).logged.tick now log w = _ from htick]
    have hpurged := (MemoryStore.Trims.refl now w.1).purge (Instant.earlier_le now config.retention)
    exact hpurged.keeps he hend

/-- An event of the early morning, and two later ones. -/
def morningStore : MemoryStore :=
  ((MemoryStore.empty.put (MemoryStore.sampleEvent "a" "u1" 0 600)).put
    (MemoryStore.sampleEvent "b" "u1" 3600 5400)).put (MemoryStore.sampleEvent "c" "u2" 3700 5400)

/-- Events are removed as soon as they are over; the first tick removes the one of the early
morning, and the first and the third one announce the others. -/
theorem morningStore_is_announced :
    (∀ id e, morningStore.Stores id e → e.startTime < e.endTime) ∧
      [secondOfDay 3250, secondOfDay 3310, secondOfDay 3370].IsChain (· ≤ ·) ∧
      (attemptsOf (overMemory MemoryChannel.channel { retention := 0 }).logged.tick
          [secondOfDay 3250, secondOfDay 3310, secondOfDay 3370]
          (morningStore, .ofBindings "notifications" [])).1 =
        (attemptsOf (overMemory MemoryChannel.channel { retention := 0 }).logged.tickUncleaned
          [secondOfDay 3250, secondOfDay 3310, secondOfDay 3370]
          (morningStore, .ofBindings "notifications" [])).1 := by
  have hs : ∀ id e, morningStore.Stores id e → e.startTime < e.endTime := by
    intro id e he
    rcases MemoryStore.stores_put.mp he with ⟨_, rfl⟩ | ⟨_, he⟩
    · decide
    · rcases MemoryStore.stores_put.mp he with ⟨_, rfl⟩ | ⟨_, he⟩
      · decide
      · rcases MemoryStore.stores_put.mp he with ⟨_, rfl⟩ | ⟨_, he⟩
        · decide
        · exact absurd he MemoryStore.not_stores_empty
  have hreadings : [secondOfDay 3250, secondOfDay 3310, secondOfDay 3370].IsChain (· ≤ ·) := by
    decide
  exact ⟨hs, hreadings,
    (cleanup_suppresses_no_reminder MemoryChannel.channel { retention := 0 } hs hreadings _).1⟩

end Scheduler

end Reminders
