import Mathlib.Algebra.GroupWithZero.Nat
import Reminders.Bus.Config
import Reminders.Proofs.Notification
import Reminders.Proofs.Scheduler.Memory
import Reminders.Proofs.Sender.Handle
import Reminders.Proofs.Sender.Stream

/-!
# Delivery — from the store to the status

All parts together, with the store and the bus in memory: the scheduler lists, encodes and
publishes, the channel routes and buffers, and the sender takes, decodes and answers.  The consumer
of the queue may come at any time between the ticks, and takes its messages once the channel is
closed.

* `every_due_event_is_acknowledged`: each event that is due at some tick leads to one status, in
  order, and nothing else does.
-/

namespace Reminders

/-- Some ticks, the arrival of the consumer, some more ticks, and the end of the channel. -/
def Scheduler.attended {m : Type → Type} [Monad m] (s : Scheduler m) (queue : String)
    (before after : List Instant) : m (List TickReport × Except ChannelError Unit) := do
  let early ← s.tickAll before
  let result ← s.channel.consume queue
  let late ← s.tickAll after
  let _ ← s.channel.close
  return (early ++ late, result)

/-- The attempt succeeded and published, for all statuses, that the event was delivered to its
owner. -/
def Event.AcknowledgedBy (e : Event) (attempt : Attempt) : Prop :=
  attempt.key = "notification_status" ∧ attempt.result = .ok () ∧
    ∃ status : DeliveryStatus, attempt.body = status.encode ∧
      DeliveryStatus.decode attempt.body = .ok status.settled ∧
      status.notificationId = e.id ∧ status.eventId = e.id ∧ status.userId = e.userId

/-! ### From the store to the queue -/

/-- The channel in memory of an exchange, without bindings of its own. -/
def BusConfig.channelOf (exchange : String) : MemoryChannel :=
  .ofBindings exchange ({ exchange := exchange } : BusConfig).effectiveBindings

/-- Once the channel is closed, the consumer has the reminders of all ticks before it. -/
theorem Scheduler.attended_inMemory (config : SchedulerConfig) (exchange : String)
    {s : MemoryStore} (hs : s.WellKept) (before after : List Instant) :
    ∃ ticks reports s' c', ticks.map Prod.fst = before ++ after ∧ DueAt config s ticks s' ∧
      reports.map TickReport.published = ticks.map (fun tick => tick.2.length) ∧
      MemoryChannel.Drains c' exchange (ticks.flatMap fun tick => remindersOf tick.1 tick.2) ∧
      (inMemory config).attended exchange before after (s, BusConfig.channelOf exchange) =
        ((reports, .ok ()), (s', c')) := by
  -- The queue gathers from the start; the consumer's arrival does not change what it holds.
  obtain ⟨early, reports, s₁, c₁, hearly, hdue, hreports, hc₁, htick⟩ :=
    tickAll_inMemory config (MemoryChannel.gathers_ofBindings exchange exchange) hs before
  obtain ⟨hattached, hc₂⟩ := hc₁.consume
  obtain ⟨late, reports', s₂, c₃, hlate, hdue', hreports', hc₃, htick'⟩ :=
    tickAll_inMemory config hc₂ (hdue.wellKept hs) after
  refine ⟨early ++ late, reports ++ reports', s₂, c₃.close.2,
    by rw [List.map_append, hearly, hlate], hdue.append hdue',
    by rw [List.map_append, List.map_append, hreports, hreports'], ?_, ?_⟩
  · rw [List.flatMap_append]
    exact hc₃.close
  · have hconsumed : (inMemory config).channel.consume exchange (s₁, c₁) =
        (.ok (), (s₁, (c₁.consume exchange).2)) :=
      congrArg (·, _) hattached
    exact (bind_of_eq_pure htick).trans
      ((bind_of_eq_pure hconsumed).trans (bind_of_eq_pure htick'))

/-! ### From the queue to the statuses -/

/-- The notification reminds of the event. -/
def Notification.IsOf (n : Notification) (e : Event) : Prop :=
  n.id = e.id ∧ n.userId = e.userId

/-- The reminders of all that was due read back as notifications of it. -/
theorem decode_remindersOf (ticks : List (Instant × List Event)) :
    ∃ ns : List Notification,
      List.Forall₂ (fun body n => Notification.decode body = .ok n)
        (ticks.flatMap fun tick => remindersOf tick.1 tick.2) ns ∧
      List.Forall₂ Notification.IsOf ns (ticks.flatMap Prod.snd) := by
  induction ticks with
  | nil => exact ⟨[], .nil, .nil⟩
  | cons tick ticks ih =>
      obtain ⟨ns, hdecode, hnamed⟩ := ih
      refine ⟨(tick.2.map fun e => (Notification.forEvent e tick.1).settled) ++ ns, ?_, ?_⟩
      · refine List.rel_append ?_ hdecode
        simp only [remindersOf, List.forall₂_map_left_iff, List.forall₂_map_right_iff,
          List.forall₂_same]
        exact fun e _ => Notification.decode_encode _
      · refine List.rel_append ?_ hnamed
        simp only [List.forall₂_map_left_iff, List.forall₂_same]
        exact fun e _ => ⟨rfl, rfl⟩

/-- The acknowledgements of some notifications are those of the events that they remind of. -/
theorem acknowledgedBy_of_acknowledges {es : List Event} {ns : List Notification}
    {attempts : List Attempt} (hnamed : List.Forall₂ Notification.IsOf ns es)
    (hacknowledges : List.Forall₂ Sender.Acknowledges ns attempts) :
    List.Forall₂ Event.AcknowledgedBy es attempts := by
  induction hnamed generalizing attempts with
  | nil =>
      cases hacknowledges
      exact .nil
  | cons hnamed _ ih =>
      obtain ⟨hid, huser⟩ := hnamed
      cases hacknowledges with
      | cons h hrest =>
          obtain ⟨now, rfl⟩ := h
          refine .cons ⟨rfl, rfl, .delivered _ now, rfl, ?_, hid, hid, huser⟩ (ih hrest)
          exact DeliveryStatus.decode_encode _

/-- **Every due event is acknowledged.**  Let a scheduler in memory run some ticks over a reachable
store, with a queue for all messages that is attended at some time and then closed, and let a sender
take its messages from the queue until there are no more.  There is exactly one way to do so, and if
all statuses are accepted, the sender publishes one status for each event that was due, tick by tick
and in the order of listings, and nothing else. -/
theorem every_due_event_is_acknowledged {s : MemoryStore} (hs : s.Reachable)
    (config : SchedulerConfig) (exchange : String) (before after : List Instant) {σ : Type}
    {sender : Sender (StateM σ)} {inv : σ → Prop} (hsender : sender.Answers inv (· = .ok ()))
    {w : σ} (hw : inv w) :
    ∃ ticks reports s' c', ticks.map Prod.fst = before ++ after ∧ DueAt config s ticks s' ∧
      (Scheduler.inMemory config).attended exchange before after (s, BusConfig.channelOf exchange) =
        ((reports, .ok ()), (s', c')) ∧
      (∃! events, MemoryChannel.IsAttendance c' exchange events) ∧
      ∀ events, MemoryChannel.IsAttendance c' exchange events →
        ∃ report attempts w',
          sender.logged.process (.start false) events [] w = ((report, attempts), w') ∧
          List.Forall₂ Event.AcknowledgedBy (ticks.flatMap Prod.snd) attempts ∧
          report.received = (reports.map TickReport.published).sum ∧
          report.acknowledged = report.received ∧ report.dropped = 0 ∧ report.failed = 0 := by
  obtain ⟨ticks, reports, s', c', hreadings, hdue, hpublished, hdrains, hrun⟩ :=
    Scheduler.attended_inMemory config exchange hs.wellKept before after
  have hattendance : ∀ events, MemoryChannel.IsAttendance c' exchange events ↔ _ :=
    fun _ => MemoryChannel.attendance_iff hdrains
  refine ⟨ticks, reports, s', c', hreadings, hdue, hrun,
    ⟨_, (hattendance _).mpr rfl, fun events h => (hattendance events).mp h⟩,
    fun events hevents => ?_⟩
  -- What the sender takes is what the queue holds, and all of it reads back.
  have hcourse := (hattendance events).mp hevents
  obtain ⟨_, l, _, hloop, _⟩ := hevents
  have htasks : Loop.tasks events = ticks.flatMap fun tick => remindersOf tick.1 tick.2 := by
    rw [hcourse, Loop.course_exhaust, Loop.tasks_cons_of_none rfl, Loop.tasks_untilExhausted]
  obtain ⟨ns, hdecode, hnamed⟩ := decode_remindersOf ticks
  obtain ⟨attempts, w', hacknowledges, _, hprocess⟩ :=
    Sender.process_acknowledges hsender hloop (htasks ▸ hdecode) [] hw
  have hlength : ns.length = (reports.map TickReport.published).sum := by
    rw [hpublished, hnamed.length_eq, List.length_flatMap]
  exact ⟨_, attempts, w', hprocess, acknowledgedBy_of_acknowledges hnamed hacknowledges, hlength,
    rfl, rfl, rfl⟩

/-- A meeting of one user. -/
def firstUsersMeeting : Event :=
  MemoryStore.sampleEvent "a" "u1" 3600 5400

/-- A meeting of another user at the same time, with a title that must be escaped. -/
def secondUsersMeeting : Event :=
  { MemoryStore.sampleEvent "b" "u2" 3600 5400 with title := "\"Tea\"\n\\ ☕" }

/-- A store with both meetings, of which the second one was added first. -/
def twoMeetings : MemoryStore :=
  MemoryStore.empty.afterAll [.create "x" secondUsersMeeting, .create "y" firstUsersMeeting]

/-- Half a minute before the notifications of the two meetings are due. -/
def soon : Instant := ⟨3270 * 2000000000, by omega, by omega⟩

/-- A sender whose statuses go to a channel in memory. -/
def memorySender : Sender (StateM MemoryChannel) where
  statuses := MemoryChannel.channel
  clock := pure soon

theorem twoMeetings_eq :
    twoMeetings = (MemoryStore.empty.put secondUsersMeeting).put firstUsersMeeting := by
  have hsecond : MemoryStore.empty.create "x" secondUsersMeeting =
      (.ok "b", MemoryStore.empty.put secondUsersMeeting) :=
    MemoryStore.create_of_admits (fun _ => MemoryStore.not_stores_empty)
      fun _ _ h => absurd h MemoryStore.not_stores_empty
  have hfirst : (MemoryStore.empty.put secondUsersMeeting).create "y" firstUsersMeeting =
      (.ok "a", (MemoryStore.empty.put secondUsersMeeting).put firstUsersMeeting) := by
    refine MemoryStore.create_of_admits (fun other h => ?_) fun id other h => ?_
    · rcases MemoryStore.stores_put.mp h with ⟨hid, _⟩ | ⟨_, h⟩
      · revert hid
        decide
      · exact MemoryStore.not_stores_empty h
    · rcases MemoryStore.stores_put.mp h with ⟨_, rfl⟩ | ⟨_, h⟩
      · decide
      · exact absurd h MemoryStore.not_stores_empty
  have hrun : twoMeetings =
      ((MemoryStore.empty.create "x" secondUsersMeeting).2.create "y" firstUsersMeeting).2 :=
    rfl
  rw [hrun, hsecond, hfirst]

theorem twoMeetings_are_acknowledged :
    twoMeetings.Reachable ∧
      memorySender.Answers (fun c => c.isClosed = false) (· = .ok ()) ∧
      (BusConfig.channelOf "statuses").isClosed = false ∧
      (twoMeetings.Stores "a" firstUsersMeeting ∧ twoMeetings.Stores "b" secondUsersMeeting) ∧
      (firstUsersMeeting.isDue soon (SchedulerConfig.windowEnd {} soon) = true ∧
        secondUsersMeeting.isDue soon (SchedulerConfig.windowEnd {} soon) = true) ∧
      ∃ ticks reports s' c', ticks.map Prod.fst = [soon] ++ [soon] ∧ DueAt {} twoMeetings ticks s' ∧
        (Scheduler.inMemory {}).attended "notifications" [soon] [soon]
            (twoMeetings, BusConfig.channelOf "notifications") = ((reports, .ok ()), (s', c')) ∧
        (∃! events, MemoryChannel.IsAttendance c' "notifications" events) ∧
        ∀ events, MemoryChannel.IsAttendance c' "notifications" events →
          ∃ report attempts w',
            memorySender.logged.process (.start false) events [] (BusConfig.channelOf "statuses") =
              ((report, attempts), w') ∧
            List.Forall₂ Event.AcknowledgedBy (ticks.flatMap Prod.snd) attempts ∧
            report.received = (reports.map TickReport.published).sum ∧
            report.acknowledged = report.received ∧ report.dropped = 0 ∧ report.failed = 0 := by
  have hreachable : twoMeetings.Reachable := ⟨_, by simp [StoreOperation.MintsId], rfl⟩
  have hsender : memorySender.Answers (fun c => c.isClosed = false) (· = .ok ()) :=
    ⟨MemoryChannel.channel_answers, fun _ h => h⟩
  refine ⟨hreachable, hsender, rfl, ?_, ⟨by decide, by decide⟩,
    every_due_event_is_acknowledged hreachable {} "notifications" [soon] [soon] hsender rfl⟩
  rw [twoMeetings_eq]
  exact ⟨MemoryStore.stores_put.mpr (.inl ⟨rfl, rfl⟩),
    MemoryStore.stores_put.mpr (.inr ⟨by decide, MemoryStore.stores_put.mpr (.inl ⟨rfl, rfl⟩)⟩)⟩

end Reminders
