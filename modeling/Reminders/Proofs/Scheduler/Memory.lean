import Reminders.Proofs.Bus.Memory
import Reminders.Proofs.Monad
import Reminders.Proofs.Store.Listing
import Reminders.Scheduler.Tick

/-!
# Scheduler — ticks in memory

A scheduler whose store and channel are in memory never fails: each tick hands the queue one
reminder for each event that is due, in the order of listings, and then purges the store.  What is
due at later ticks follows from the store alone.

* `tickAll_inMemory`: what the queue holds after some ticks.
-/

namespace Reminders

/-- The bodies of the reminders that a tick at `now` makes of some events. -/
def remindersOf (now : Instant) (es : List Event) : List Bytes :=
  es.map fun e => (Notification.forEvent e now).encode

/-- The events that are due at each of some ticks, as they are found in a store that is purged
meanwhile: each tick lists the events that become due in its window, and removes those that ended
too long ago. -/
inductive DueAt (config : SchedulerConfig) :
    MemoryStore → List (Instant × List Event) → MemoryStore → Prop where
  | nil (s : MemoryStore) : DueAt config s [] s
  | cons {s s' : MemoryStore} {now : Instant} {es : List Event}
      {ticks : List (Instant × List Event)}
      (hlists : s.Lists (fun e => e.isDue now (config.windowEnd now)) es)
      (hrest : DueAt config (s.purge (config.cutoff now)) ticks s') :
      DueAt config s ((now, es) :: ticks) s'

namespace DueAt

variable {config : SchedulerConfig} {s s₁ s₂ : MemoryStore}
  {ticks ticks' : List (Instant × List Event)}

theorem append (h : DueAt config s ticks s₁) (h' : DueAt config s₁ ticks' s₂) :
    DueAt config s (ticks ++ ticks') s₂ := by
  induction h with
  | nil => exact h'
  | cons hlists _ ih => exact .cons hlists (ih h')

theorem wellKept (h : DueAt config s ticks s₁) (hs : s.WellKept) : s₁.WellKept := by
  induction h with
  | nil => exact hs
  | cons _ _ ih => exact ih (hs.purge _)

end DueAt

namespace Scheduler

/-- Work on the store. -/
def onStore {α : Type} (work : StateM MemoryStore α) : StateM (MemoryStore × MemoryChannel) α :=
  fun w => ((work w.1).1, ((work w.1).2, w.2))

/-- Work on the channel. -/
def onChannel {α : Type} (work : StateM MemoryChannel α) : StateM (MemoryStore × MemoryChannel) α :=
  fun w => ((work w.2).1, (w.1, (work w.2).2))

/-- A scheduler whose store and channel are in memory. -/
def inMemory (config : SchedulerConfig) : Scheduler (StateM (MemoryStore × MemoryChannel)) where
  store := MemoryStore.store.lift onStore
  channel := MemoryChannel.channel.lift onChannel
  config := config

variable (config : SchedulerConfig) {c : MemoryChannel} {queue : String} {bodies : List Bytes}
  {consumer : Attachment}

/-- Every reminder joins the end of the queue. -/
theorem remindAll_inMemory (h : c.Gathers queue bodies consumer) (now : Instant) (es : List Event)
    (s : MemoryStore) :
    ∃ c', c'.Gathers queue (bodies ++ remindersOf now es) consumer ∧
      (inMemory config).remindAll now es (s, c) = (es.map fun _ => .ok (), (s, c')) := by
  induction es generalizing c bodies with
  | nil => exact ⟨c, by simpa [remindersOf] using h, rfl⟩
  | cons e es ih =>
      obtain ⟨hok, hgathers⟩ := h.publish e.userId (Notification.forEvent e now).encode
      obtain ⟨c', hc', hrest⟩ := ih hgathers
      refine ⟨c', by simpa [remindersOf] using hc', ?_⟩
      have hremind : (inMemory config).remind now e (s, c) =
          (.ok (), (s, (c.publish e.userId (Notification.forEvent e now).encode).2)) :=
        congrArg (·, _) hok
      exact (bind_of_eq_pure hremind).trans (bind_of_eq_pure hrest)

/-- A report in which every reminder was accepted. -/
theorem report_accepted (due : List Event) (purged : Except StoreError Nat) :
    report due (due.map fun _ => .ok ()) purged =
      ⟨due.length, due.length, 0, purged.toOption.getD 0⟩ := by
  have hok : (due.map fun _ => (.ok () : Except ChannelError Unit)).filter Except.isOk =
      due.map fun _ => .ok () :=
    List.filter_eq_self.mpr fun r hr => by
      obtain ⟨_, _, rfl⟩ := List.mem_map.mp hr
      rfl
  have hfailed :
      (due.map fun _ => (.ok () : Except ChannelError Unit)).filter (fun r => !r.isOk) = [] :=
    List.filter_eq_nil_iff.mpr fun r hr => by
      obtain ⟨_, _, rfl⟩ := List.mem_map.mp hr
      decide
  rw [report, hok, hfailed, List.length_map, List.length_nil]

/-- A tick publishes a reminder for all that is due, and purges the store. -/
theorem tick_inMemory (h : c.Gathers queue bodies consumer) (now : Instant) (s : MemoryStore) :
    ∃ c' report,
      c'.Gathers queue
        (bodies ++ remindersOf now (s.collect fun e => e.isDue now (config.windowEnd now)))
        consumer ∧
      report.published = (s.collect fun e => e.isDue now (config.windowEnd now)).length ∧
      (inMemory config).tick now (s, c) = (report, (s.purge (config.cutoff now), c')) := by
  generalize hdue : (s.collect fun e => e.isDue now (config.windowEnd now)) = due
  obtain ⟨c', hc', hreminded⟩ := remindAll_inMemory config h now due s
  have hlisted : (inMemory config).store.listDueBefore now (config.windowEnd now) (s, c) =
      (.ok due, (s, c)) := by
    rw [← hdue]
    rfl
  refine ⟨c', _, hc', ?_, (bind_of_eq_pure hlisted).trans ((bind_of_eq_pure hreminded).trans rfl)⟩
  exact congrArg TickReport.published (report_accepted due _)

/-- **What ticks in memory publish.**  After some ticks the queue holds the reminders of all that
was due, tick by tick, and the reports count them. -/
theorem tickAll_inMemory (h : c.Gathers queue bodies consumer) {s : MemoryStore} (hs : s.WellKept)
    (readings : List Instant) :
    ∃ ticks reports s' c', ticks.map Prod.fst = readings ∧ DueAt config s ticks s' ∧
      reports.map TickReport.published = ticks.map (fun tick => tick.2.length) ∧
      c'.Gathers queue (bodies ++ ticks.flatMap fun tick => remindersOf tick.1 tick.2) consumer ∧
      (inMemory config).tickAll readings (s, c) = (reports, (s', c')) := by
  induction readings generalizing s c bodies with
  | nil => exact ⟨[], [], s, c, rfl, .nil s, rfl, by simpa using h, rfl⟩
  | cons now readings ih =>
      obtain ⟨c₁, report, hc₁, hpublished, htick⟩ := tick_inMemory config h now s
      obtain ⟨ticks, reports, s', c', hreadings, hdue, hreports, hc', htickAll⟩ :=
        ih hc₁ (hs.purge (config.cutoff now))
      refine ⟨(now, _) :: ticks, report :: reports, s', c', by rw [List.map_cons, hreadings],
        .cons (hs.lists_collect _) hdue, ?_, ?_, ?_⟩
      · rw [List.map_cons, List.map_cons, hreports, hpublished]
      · rw [List.flatMap_cons, ← List.append_assoc]
        exact hc'
      · exact (bind_of_eq_pure htick).trans (bind_of_eq_pure htickAll)

end Scheduler

end Reminders
