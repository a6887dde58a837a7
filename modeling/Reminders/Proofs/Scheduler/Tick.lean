import Reminders.Proofs.Calls
import Reminders.Proofs.Notification
import Reminders.Proofs.Scheduler.Window

/-!
# Scheduler — what a tick calls

A tick works on a store and a channel of which nothing is known: each call may fail.  The log of a
watched tick shows everything that the tick asks for.

* `watched_remindAll`: each event is announced by one attempt, whatever became of the others.
* `watched_tick`: the calls of a tick, and how its report sums up their answers.
* `tick_stops_at_nothing`: the same for the tick that shows what the scheduler is doing.
-/

namespace Reminders

variable {σ : Type}

/-- The attempt to publish the reminder of an event made at `now`, with its result. -/
def Event.attempt (now : Instant) (e : Event) (result : Except ChannelError Unit) : Attempt :=
  ⟨e.userId, (Notification.forEvent e now).encode, result⟩

/-- The body of the attempt reads back as the reminder of the event, made at `now`. -/
theorem Event.decode_attempt (now : Instant) (e : Event) (result : Except ChannelError Unit) :
    Notification.decode (e.attempt now result).body =
      .ok ⟨e.id, e.title, e.description, e.userId, e.startTime.settled, now.settled⟩ :=
  Notification.decode_encode (Notification.forEvent e now)

namespace Scheduler

variable {s : Scheduler (StateM σ)} {now : Instant}

/-- The scheduler with a log of the calls. -/
def watched (s : Scheduler (StateM σ)) : Scheduler (StateT (List Call) (StateM σ)) where
  store := s.store.watched
  channel := s.channel.watched
  config := s.config

/-! ### Announcing the events -/

theorem watched_remind (s : Scheduler (StateM σ)) (now : Instant) (e : Event) (log : List Call)
    (w : σ) : s.watched.remind now e log w =
      (((s.remind now e w).1, log ++ [.publish (e.attempt now (s.remind now e w).1)]),
        (s.remind now e w).2) :=
  rfl

/-- Each event is announced by one attempt, in turn, whatever became of the attempts before it. -/
theorem watched_remindAll (s : Scheduler (StateM σ)) (now : Instant) (es : List Event)
    (log : List Call) (w : σ) : s.watched.remindAll now es log w =
      (((s.remindAll now es w).1, log ++ List.zipWith (fun e result =>
        .publish (e.attempt now result)) es (s.remindAll now es w).1),
          (s.remindAll now es w).2) := by
  induction es generalizing log w with
  | nil =>
      rw [List.zipWith_nil_left, List.append_nil]
      rfl
  | cons e es ih =>
      have hremind := s.watched_remind now e log w
      have hrest := ih (log ++ [.publish (e.attempt now (s.remind now e w).1)])
        (s.remind now e w).2
      refine (bind_of_eq_pure₂ hremind).trans ((bind_of_eq_pure₂ hrest).trans ?_)
      rw [List.append_assoc]
      rfl

theorem length_remindAll (s : Scheduler (StateM σ)) (now : Instant) (es : List Event) (w : σ) :
    (s.remindAll now es w).1.length = es.length := by
  induction es generalizing w with
  | nil => rfl
  | cons e es ih => exact congrArg (· + 1) (ih (s.remind now e w).2)

/-! ### The whole tick -/

/-- What a tick at `now` calls and reports, if the listing, the attempts to publish and the cleanup
are answered like this:
* it lists the events of its window, makes one attempt for each event listed, in the order of the
  listing, and then removes what ended before its cutoff, whatever the answers are;
* the window ends, and the cutoff lies, where the reading is moved by the interval and by the
  retention period;
* each attempt is routed by the owner of its event, and its body reads back as a reminder of that
  event with the reading as the instant at which it was made;
* the events that are due are those listed, and there are none if the listing fails;
* the attempts that succeed are published, and all others have failed;
* the number of events removed is that of the cleanup, and none if it fails. -/
structure Ticks (config : SchedulerConfig) (now : Instant)
    (listed : Except StoreError (List Event)) (results : List (Except ChannelError Unit))
    (removed : Except StoreError Nat) (calls : List Call) (report : TickReport) : Prop where
  inTurn : calls = .store (.listDueBefore now (config.windowEnd now)) (listed.map .events) ::
    (List.zipWith (fun e result => .publish (e.attempt now result)) (listed.toOption.getD [])
      results ++ [.store (.deleteOlderThan (config.cutoff now)) (removed.map .removed)])
  bounds : config.HasBounds now
  attempted : results.length = (listed.toOption.getD []).length
  bodies : ∀ e ∈ listed.toOption.getD [], ∀ result, (e.attempt now result).key = e.userId ∧
    Notification.decode (e.attempt now result).body =
      .ok ⟨e.id, e.title, e.description, e.userId, e.startTime.settled, now.settled⟩
  due : report.due = (listed.toOption.getD []).length
  published : report.published = results.countP Except.isOk
  failed : report.published + report.failed = report.due
  purged : report.purged = removed.toOption.getD 0

theorem ticks_report {config : SchedulerConfig} {listed : Except StoreError (List Event)}
    {results : List (Except ChannelError Unit)} (removed : Except StoreError Nat)
    (h : results.length = (listed.toOption.getD []).length) :
    Ticks config now listed results removed
      (.store (.listDueBefore now (config.windowEnd now)) (listed.map .events) ::
        (List.zipWith (fun e result => .publish (e.attempt now result)) (listed.toOption.getD [])
          results ++ [.store (.deleteOlderThan (config.cutoff now)) (removed.map .removed)]))
      (report (listed.toOption.getD []) results removed) where
  inTurn := rfl
  bounds := config.hasBounds now
  attempted := h
  bodies e _ result := ⟨rfl, e.decode_attempt now result⟩
  due := rfl
  published := List.countP_eq_length_filter.symm
  failed := by
    have hcount := List.length_eq_countP_add_countP Except.isOk (l := results)
    simp only [report, ← List.countP_eq_length_filter]
    rw [← h, hcount]
    simp
  purged := rfl

/-- A watched tick that gets these answers calls and reports as described. -/
theorem watched_tick_of_eq {s : Scheduler (StateM σ)} {listed : Except StoreError (List Event)}
    {results : List (Except ChannelError Unit)} {removed : Except StoreError Nat} {w w₁ w₂ w₃ : σ}
    (hlist : s.store.listDueBefore now (s.config.windowEnd now) w = (listed, w₁))
    (hremind : s.remindAll now (listed.toOption.getD []) w₁ = (results, w₂))
    (hpurge : s.store.deleteOlderThan (s.config.cutoff now) w₂ = (removed, w₃)) (log : List Call) :
    ∃ calls report, s.tick now w = (report, w₃) ∧
      s.watched.tick now log w = ((report, log ++ calls), w₃) ∧
      Ticks s.config now listed results removed calls report := by
  have hlength := s.length_remindAll now (listed.toOption.getD []) w₁
  rw [hremind] at hlength
  refine ⟨_, _, ?_, ?_, ticks_report removed hlength⟩
  · exact (bind_of_eq_pure hlist).trans ((bind_of_eq_pure hremind).trans
      ((bind_of_eq_pure hpurge).trans rfl))
  · have hlist' : s.watched.store.listDueBefore now (s.config.windowEnd now) log w = _ :=
      Call.watch_of_eq hlist _ log
    have hremind' := s.watched_remindAll now (listed.toOption.getD [])
      (log ++ [.store (.listDueBefore now (s.config.windowEnd now)) (listed.map .events)]) w₁
    rw [hremind] at hremind'
    have hpurge' : ∀ log, s.watched.store.deleteOlderThan (s.config.cutoff now) log w₂ = _ :=
      Call.watch_of_eq hpurge _
    refine (bind_of_eq_pure₂ hlist').trans ((bind_of_eq_pure₂ hremind').trans
      ((bind_of_eq_pure₂ (hpurge' _)).trans ?_))
    rw [List.append_assoc, List.append_assoc]
    rfl

/-- A watched tick calls and reports as described; watching it changes nothing. -/
theorem watched_tick (s : Scheduler (StateM σ)) (now : Instant) (log : List Call) (w : σ) :
    ∃ listed results removed calls report w', s.tick now w = (report, w') ∧
      s.watched.tick now log w = ((report, log ++ calls), w') ∧
      Ticks s.config now listed results removed calls report := by
  have hlist : s.store.listDueBefore now (s.config.windowEnd now) w = _ := rfl
  obtain ⟨calls, report, htick, hwatched, hticks⟩ := watched_tick_of_eq hlist rfl rfl log
  exact ⟨_, _, _, calls, report, _, htick, hwatched, hticks⟩

/-- **A tick stops at nothing.**  Whatever the store and the channel answer, a tick calls and
reports as described, and leaves the scheduler idle; watching it changes nothing. -/
theorem tick_stops_at_nothing (s : Scheduler (StateM σ)) (now : Instant) (status : SchedulerStatus)
    (log : List Call) (w : σ) :
    ∃ listed results removed calls report w',
      s.tickShown now status w = ((report, .idle), w') ∧
      s.watched.tickShown now status log w = (((report, .idle), log ++ calls), w') ∧
      Ticks s.config now listed results removed calls report := by
  obtain ⟨listed, results, removed, calls, report, w', htick, hwatched, hticks⟩ :=
    s.watched_tick now log w
  refine ⟨listed, results, removed, calls, report, w', ?_, ?_, hticks⟩
  · have hshown : s.tickShown now status w = (((s.tick now w).1, .idle), (s.tick now w).2) := rfl
    rw [hshown, htick]
  · have hshown : s.watched.tickShown now status log w =
        ((((s.watched.tick now log w).1.1, .idle), (s.watched.tick now log w).1.2),
          (s.watched.tick now log w).2) := rfl
    rw [hshown, hwatched]

end Scheduler

end Reminders
