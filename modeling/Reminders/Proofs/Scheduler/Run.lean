import Reminders.Proofs.Bus.Attempts
import Reminders.Proofs.Loop
import Reminders.Proofs.Notification
import Reminders.Proofs.Scheduler.Window
import Reminders.Scheduler.Run

/-!
# Scheduler — what a run announces

A scheduler that runs looks one interval ahead at each tick, from the reading of that tick, and
keeps no record of the reading before.  If no tick begins late, its windows meet.  A tick that
begins late leaves a gap after the window before it, and what falls into the gap is never announced.

* `loop_of_run`: the ticks of a running scheduler are the tasks of its loop.
* `perform_logged`: what a run tries to publish, tick by tick.
* `announced_iff_not_between`: what a run announces of an event that the store holds throughout.
* `late_tick_misses_notice`: a notice that falls between two ticks.
-/

namespace Reminders

/-! ### The loop of a run -/

namespace SchedulerRun

variable {r r' : SchedulerRun}

theorem loop_of_step {clock : Nat} {event : LoopEvent Instant} (h : r.step clock event = some r') :
    r.loop.step event = some r'.loop := by
  rw [step.eq_def] at h
  split at h
  · cases h
  · cases event with
    | take now =>
        dsimp only at h
        split at h
        · obtain ⟨loop, hloop, rfl⟩ := Option.map_eq_some_iff.mp h
          exact hloop
        · cases h
    | exhaust => cases h
    | check | finish | notice | shutdown | abandon =>
        obtain ⟨loop, hloop, rfl⟩ := Option.map_eq_some_iff.mp h
        exact hloop

/-- The loop of a scheduler goes through the events of its run. -/
theorem loop_of_run {timed : List (Nat × LoopEvent Instant)} (h : r.run timed = some r') :
    r.loop.run (timed.map Prod.snd) = some r'.loop := by
  induction timed generalizing r with
  | nil =>
      obtain rfl := Option.some.inj h
      rfl
  | cons event timed ih =>
      rw [run, List.foldlM_cons, Option.bind_eq_bind, Option.bind_eq_some_iff] at h
      obtain ⟨r₁, hstep, hrun⟩ := h
      exact Loop.run_cons.mpr ⟨r₁.loop, loop_of_step hstep, ih hrun⟩

end SchedulerRun

/-! ### What a tick tries to publish -/

/-- The attempt that publishes the reminder of an event made at `now`. -/
def Event.announcement (now : Instant) (e : Event) : Attempt :=
  ⟨e.userId, (Notification.forEvent e now).encode, .ok ()⟩

/-- Reminders made at the same time are told apart by the ids of their events. -/
theorem Event.id_of_announcement_eq {e e' : Event} {now now' : Instant}
    (h : e.announcement now = e'.announcement now') : e.id = e'.id := by
  have hbody : (Notification.forEvent e now).encode = (Notification.forEvent e' now').encode :=
    congrArg Attempt.body h
  have hdecode := Notification.decode_encode (Notification.forEvent e now)
  rw [hbody, Notification.decode_encode] at hdecode
  exact (congrArg Notification.id (Except.ok.inj hdecode)).symm

namespace Scheduler

variable {σ : Type} {s : Scheduler (StateM σ)} {inv : σ → Prop} {e : Event}
  {readings : List Instant} {now : Instant}

/-- The scheduler with a log of the attempts to publish. -/
def logged (s : Scheduler (StateM σ)) : Scheduler (StateT (List Attempt) (StateM σ)) where
  store := s.store.lift StateT.lift
  channel := s.channel.logged
  config := s.config

theorem logged_listDueBefore (s : Scheduler (StateM σ)) (now before : Instant) (log : List Attempt)
    (w : σ) :
    s.logged.store.listDueBefore now before log w =
      (((s.store.listDueBefore now before w).1, log), (s.store.listDueBefore now before w).2) :=
  rfl

theorem remindAll_logged_eq (s : Scheduler (StateM σ)) (now : Instant) (es : List Event)
    (log : List Attempt) (w : σ) :
    ∃ log', s.logged.remindAll now es log w =
      (((s.remindAll now es w).1, log'), (s.remindAll now es w).2) := by
  induction es generalizing log w with
  | nil => exact ⟨log, rfl⟩
  | cons e es ih =>
      obtain ⟨log', h⟩ := ih (log ++ [⟨e.userId, (Notification.forEvent e now).encode,
        (s.remind now e w).1⟩]) (s.remind now e w).2
      refine ⟨log', ?_⟩
      have hremind := s.channel.logged_publish e.userId (Notification.forEvent e now).encode log w
      exact (bind_of_eq_pure₂ hremind).trans ((bind_of_eq_pure₂ h).trans rfl)

/-- A log changes nothing else about a tick. -/
theorem tick_logged_eq (s : Scheduler (StateM σ)) (now : Instant) (log : List Attempt) (w : σ) :
    ∃ log', s.logged.tick now log w = (((s.tick now w).1, log'), (s.tick now w).2) := by
  obtain ⟨log', h⟩ := s.remindAll_logged_eq now
    ((s.store.listDueBefore now (s.config.windowEnd now) w).1.toOption.getD []) log
    (s.store.listDueBefore now (s.config.windowEnd now) w).2
  have hlist := s.logged_listDueBefore now (s.config.windowEnd now) log w
  exact ⟨log', (bind_of_eq_pure₂ hlist).trans ((bind_of_eq_pure₂ h).trans rfl)⟩

/-- As long as the invariant holds, the store holds the event, listings and cleanups at these
readings keep the invariant, and the channel accepts every message and keeps it too. -/
structure Serves (s : Scheduler (StateM σ)) (inv : σ → Prop) (e : Event)
    (readings : List Instant) : Prop where
  holds : ∀ w, inv w → s.store.Holds e w
  lists : ∀ now before w, inv w → inv (s.store.listDueBefore now before w).2
  purges : ∀ now ∈ readings, ∀ w, inv w → inv (s.store.deleteOlderThan (s.config.cutoff now) w).2
  accepts : s.channel.Answers inv (· = .ok ())

/-- A tick at `now` announces these events: the event `e` if it is due, and besides it no other
event of its id. -/
def Announces (s : Scheduler (StateM σ)) (e : Event) (now : Instant) (es : List Event) : Prop :=
  (e ∈ es ↔ e.isDue now (s.config.windowEnd now) = true) ∧ ∀ e' ∈ es, e'.id = e.id → e' = e

theorem remindAll_logged (hs : s.Serves inv e readings) (now : Instant) (es : List Event)
    (log : List Attempt) {w : σ} (hw : inv w) :
    ∃ results w', inv w' ∧
      s.logged.remindAll now es log w = ((results, log ++ es.map (Event.announcement now)), w') := by
  induction es generalizing log w with
  | nil => exact ⟨[], w, hw, by rw [List.map_nil, List.append_nil]; rfl⟩
  | cons e' es ih =>
      obtain ⟨hok, hinv⟩ := hs.accepts e'.userId (Notification.forEvent e' now).encode w hw
      obtain ⟨results, w', hw', hrest⟩ := ih (log ++ [e'.announcement now]) hinv
      refine ⟨.ok () :: results, w', hw', ?_⟩
      have hremind : s.logged.remind now e' log w = ((.ok (), log ++ [e'.announcement now]),
          (s.channel.publish e'.userId (Notification.forEvent e' now).encode w).2) := by
        refine (s.channel.logged_publish _ _ _ _).trans ?_
        rw [Event.announcement, ← hok]
        rfl
      refine (bind_of_eq_pure₂ hremind).trans ((bind_of_eq_pure₂ hrest).trans ?_)
      rw [List.append_assoc]
      rfl

/-- A tick announces what is due and nothing else. -/
theorem tick_logged (hs : s.Serves inv e readings) (hnow : now ∈ readings) (log : List Attempt)
    {w : σ} (hw : inv w) :
    ∃ es report w', s.Announces e now es ∧ inv w' ∧
      s.logged.tick now log w = ((report, log ++ es.map (Event.announcement now)), w') := by
  obtain ⟨es, hlisted, hes⟩ := hs.holds w hw now (s.config.windowEnd now)
  rcases hstored : s.store.listDueBefore now (s.config.windowEnd now) w with ⟨listed, w₁⟩
  have hw₁ : inv w₁ := by simpa only [hstored] using hs.lists now (s.config.windowEnd now) w hw
  obtain rfl : listed = .ok es := by simpa only [hstored] using hlisted
  obtain ⟨results, w₂, hw₂, hreminded⟩ := remindAll_logged hs now es log hw₁
  refine ⟨es, report es results (s.store.deleteOlderThan (s.config.cutoff now) w₂).1, _, hes,
    hs.purges now hnow w₂ hw₂, ?_⟩
  have hlist : s.logged.store.listDueBefore now (s.config.windowEnd now) log w =
      ((.ok es, log), w₁) := by
    rw [logged_listDueBefore, hstored]
  exact (bind_of_eq_pure₂ hlist).trans ((bind_of_eq_pure₂ hreminded).trans rfl)

/-! ### What a run tries to publish -/

/-- What a loop carries out for one reading: the tick, while the scheduler shows what it does. -/
theorem tickShown_logged (now : Instant) (status : SchedulerStatus) (log : List Attempt) (w : σ) :
    (do let _ ← s.logged.tickShown now) status log w =
      ((((), .idle), (s.logged.tick now log w).1.2), (s.logged.tick now log w).2) :=
  rfl

/-- Some ticks in turn announce what is due at each. -/
theorem forM_tickShown_logged (hs : s.Serves inv e readings) {later : List Instant}
    (hlater : ∀ now ∈ later, now ∈ readings) (status : SchedulerStatus) (log : List Attempt) {w : σ}
    (hw : inv w) :
    ∃ (ticks : List (Instant × List Event)) (status' : SchedulerStatus) (w' : σ),
      ticks.map Prod.fst = later ∧ (∀ tick ∈ ticks, s.Announces e tick.1 tick.2) ∧ inv w' ∧
      (later.forM fun now => do let _ ← s.logged.tickShown now) status log w =
        ((((), status'), log ++ ticks.flatMap fun tick => tick.2.map (Event.announcement tick.1)),
          w') := by
  induction later generalizing status log w with
  | nil => exact ⟨[], status, w, rfl, by simp, hw, by rw [List.flatMap_nil, List.append_nil]; rfl⟩
  | cons now later ih =>
      obtain ⟨es, report, w₁, hes, hw₁, htick⟩ :=
        tick_logged hs (hlater now List.mem_cons_self) log hw
      obtain ⟨ticks, status', w', hreadings, hticks, hw', hforM⟩ :=
        ih (fun now h => hlater now (List.mem_cons_of_mem _ h)) .idle
          (log ++ es.map (Event.announcement now)) hw₁
      refine ⟨(now, es) :: ticks, status', w', by rw [List.map_cons, hreadings],
        List.forall_mem_cons.mpr ⟨hes, hticks⟩, hw', ?_⟩
      have hshown := tickShown_logged (s := s) now status log w
      rw [htick] at hshown
      have hcons : ((now :: later).forM fun now => do let _ ← s.logged.tickShown now) status =
          (do let _ ← s.logged.tickShown now) status >>= fun p =>
            (later.forM fun now => do let _ ← s.logged.tickShown now) p.2 :=
        rfl
      rw [hcons, bind_of_eq_pure₂ hshown, hforM, List.flatMap_cons, List.append_assoc]

/-- A run ticks at each of its readings in turn, and shows at its end that it has stopped. -/
theorem perform_of_run {m : Type → Type} [Monad m] [LawfulMonad m] (s : Scheduler m)
    {l l' : Loop Instant} {events : List (LoopEvent Instant)} (hrun : l.run events = some l') :
    s.perform l events = do
      (Loop.tasks events).forM fun now => do let _ ← s.tickShown now
      if l'.phase = .stopped then set SchedulerStatus.stopped
      return l' := by
  rw [perform, Loop.perform_of_run _ hrun, bind_assoc]
  simp only [pure_bind]

/-- A run goes through its events and announces what is due at each of its ticks. -/
theorem perform_logged {l l' : Loop Instant} {events : List (LoopEvent Instant)}
    (hs : s.Serves inv e (Loop.tasks events)) (hrun : l.run events = some l')
    (status : SchedulerStatus) (log : List Attempt) {w : σ} (hw : inv w) :
    ∃ (ticks : List (Instant × List Event)) (status' : SchedulerStatus) (w' : σ),
      ticks.map Prod.fst = Loop.tasks events ∧ (∀ tick ∈ ticks, s.Announces e tick.1 tick.2) ∧
      inv w' ∧
      s.logged.perform l events status log w =
        (((l', status'), log ++ ticks.flatMap fun tick => tick.2.map (Event.announcement tick.1)),
          w') := by
  obtain ⟨ticks, status', w', hreadings, hticks, hw', hforM⟩ :=
    forM_tickShown_logged hs (fun _ h => h) status log hw
  have hperform : s.logged.perform l events status =
      ((Loop.tasks events).forM fun now => do let _ ← s.logged.tickShown now) status >>= fun p =>
        pure (l', if l'.phase = .stopped then .stopped else p.2) := by
    rw [perform_of_run _ hrun]
    by_cases hstopped : l'.phase = .stopped
    · simp only [if_pos hstopped]
      rfl
    · simp only [if_neg hstopped]
      rfl
  refine ⟨ticks, if l'.phase = .stopped then .stopped else status', w', hreadings, hticks, hw', ?_⟩
  rw [hperform, bind_of_eq_pure₂ hforM]
  rfl

section Announced

variable {ticks : List (Instant × List Event)} {t : Instant}

/-- A tick announces an event whose notice falls into its window. -/
theorem announcement_mem (ht : e.notifyAt = some t)
    (hticks : ∀ tick ∈ ticks, s.Announces e tick.1 tick.2) (hnow : now ∈ ticks.map Prod.fst)
    (hin : s.config.InWindow now t) :
    e.announcement now ∈ ticks.flatMap fun tick => tick.2.map (Event.announcement tick.1) := by
  obtain ⟨tick, htick, rfl⟩ := List.mem_map.mp hnow
  have he : e ∈ tick.2 := (hticks tick htick).1.mpr ((Event.isDue_iff ht).mpr hin)
  exact List.mem_flatMap.mpr ⟨tick, htick, List.mem_map.mpr ⟨e, he, rfl⟩⟩

/-- An event is announced only if its notice falls into the window of a tick. -/
theorem exists_inWindow_of_announcement_mem (ht : e.notifyAt = some t)
    (hticks : ∀ tick ∈ ticks, s.Announces e tick.1 tick.2)
    (h : e.announcement now ∈ ticks.flatMap fun tick => tick.2.map (Event.announcement tick.1)) :
    ∃ now' ∈ ticks.map Prod.fst, s.config.InWindow now' t := by
  obtain ⟨tick, htick, hannounced⟩ := List.mem_flatMap.mp h
  obtain ⟨e', he', heq⟩ := List.mem_map.mp hannounced
  obtain ⟨hdue, hsame⟩ := hticks tick htick
  obtain rfl := hsame e' he' (Event.id_of_announcement_eq heq)
  exact ⟨tick.1, List.mem_map.mpr ⟨tick, htick, rfl⟩, (Event.isDue_iff ht).mp (hdue.mp he')⟩

end Announced

/-- A run announces an event exactly if its notice falls into the window of a tick. -/
theorem announced_iff_inWindow {t : Instant} (ht : e.notifyAt = some t) {r r' : SchedulerRun}
    {timed : List (Nat × LoopEvent Instant)} (hrun : r.run timed = some r')
    (hs : s.Serves inv e (SchedulerRun.readings timed)) (status : SchedulerStatus) {w : σ}
    (hw : inv w) :
    ∃ status' log w',
      s.logged.perform r.loop (timed.map Prod.snd) status [] w =
        (((r'.loop, status'), log), w') ∧
      ((∃ now ∈ SchedulerRun.readings timed, e.announcement now ∈ log) ↔
        ∃ now ∈ SchedulerRun.readings timed, s.config.InWindow now t) := by
  obtain ⟨ticks, status', w', hreadings, hticks, _, hperform⟩ :=
    perform_logged hs (SchedulerRun.loop_of_run hrun) status [] hw
  refine ⟨status', _, w', hperform, ?_⟩
  rw [List.nil_append, SchedulerRun.readings, ← hreadings]
  constructor
  · rintro ⟨now, _, hannounced⟩
    exact exists_inWindow_of_announcement_mem ht hticks hannounced
  · rintro ⟨now, hnow, hin⟩
    exact ⟨now, hnow, announcement_mem ht hticks hnow hin⟩

/-- **What late ticks miss.**  Let a scheduler run with a store and a channel that never fail, and
let no tick read an instant within the window of the one before, which ends one interval after its
reading or where time does.  An event that the store holds throughout, and whose notice comes after
the first reading and not after the last one, is announced at some tick, unless its notice falls
between the window of one tick and the reading of the next: then it is not announced at all. -/
theorem announced_iff_not_between {t : Instant} (ht : e.notifyAt = some t) {r r' : SchedulerRun}
    {timed : List (Nat × LoopEvent Instant)} (hrun : r.run timed = some r')
    (hs : s.Serves inv e (SchedulerRun.readings timed))
    (hspaced : (SchedulerRun.readings timed).IsChain s.config.Spaced) {first last : Instant}
    (hfirst : (SchedulerRun.readings timed).head? = some first)
    (hlast : (SchedulerRun.readings timed).getLast? = some last) (hafter : first < t)
    (hupto : t ≤ last) (status : SchedulerStatus) {w : σ} (hw : inv w) :
    (∀ now ∈ SchedulerRun.readings timed, s.config.HasBounds now) ∧
    ∃ status' log w',
      s.logged.perform r.loop (timed.map Prod.snd) status [] w =
        (((r'.loop, status'), log), w') ∧
      ((∃ now ∈ SchedulerRun.readings timed, e.announcement now ∈ log) ↔
        ¬ s.config.FallsBetween (SchedulerRun.readings timed) t) := by
  obtain ⟨status', log, w', hperform, hannounced⟩ := announced_iff_inWindow ht hrun hs status hw
  refine ⟨fun now _ => s.config.hasBounds now, status', log, w', hperform,
    hannounced.trans ⟨?_, fun hnot => ?_⟩⟩
  · rintro ⟨now, hnow, hin⟩ hbetween
    exact SchedulerConfig.not_inWindow_of_fallsBetween hspaced hbetween hnow hin
  · obtain ⟨rest, hrest⟩ := List.head?_eq_some_iff.mp hfirst
    rw [hrest] at hlast hnot ⊢
    exact (SchedulerConfig.inWindow_or_fallsBetween hlast hafter (.inl hupto)).resolve_right hnot

/-! ### A scheduler in memory -/

/-- The store in memory is well kept and holds the event, and the channel is open. -/
def Awaits (e : Event) (w : MemoryStore × MemoryChannel) : Prop :=
  w.1.WellKept ∧ w.1.Stores e.id e ∧ w.2.isClosed = false

/-- A scheduler in memory serves an event that no tick finds too old. -/
theorem serves_inMemory (config : SchedulerConfig)
    (hkeeps : ∀ now ∈ readings, e.endedBefore (config.cutoff now) = false) :
    (inMemory config).Serves (Awaits e) e readings where
  holds _ h := holds_inMemory config h.1 h.2.1
  lists _ _ _ h := h
  purges now hnow _ h :=
    ⟨h.1.purge _, MemoryStore.stores_purge.mpr ⟨h.2.1, hkeeps now hnow⟩, h.2.2⟩
  accepts key body w h := by
    obtain ⟨hok, hopen⟩ := MemoryChannel.channel_answers key body w.2 h.2.2
    exact ⟨hok, h.1, h.2.1, hopen⟩

/-- A second of the first day. -/
def secondOfDay (second : Fin 86400) : Instant :=
  ⟨2000000000 * second, by omega, by omega⟩

/-- A meeting whose notification is due at second 3300. -/
def awaitedMeeting : Event :=
  MemoryStore.sampleEvent "a" "u1" 3600 5400

/-- A store with the meeting, and a channel. -/
def awaitingStore : MemoryStore × MemoryChannel :=
  (MemoryStore.empty.put awaitedMeeting, .ofBindings "notifications" [])

/-- Two ticks with the given readings, the first one a minute after the start, and the second one
thirty seconds late. -/
def lateTicks (first second : Fin 86400) : List (Nat × LoopEvent Instant) :=
  [(0, .check), (60000000000, .take (secondOfDay first)), (60000000000, .finish),
    (60000000000, .check), (150000000000, .take (secondOfDay second)), (150000000000, .finish)]

theorem awaits_awaitedMeeting : Awaits awaitedMeeting awaitingStore :=
  ⟨MemoryStore.WellKept.empty.put (by decide) fun _ _ h => absurd h MemoryStore.not_stores_empty,
    MemoryStore.stores_put.mpr (.inl ⟨rfl, rfl⟩), rfl⟩

/-- The second tick begins thirty seconds late, but the notice falls into the first window. -/
theorem awaitedMeeting_is_announced :
    awaitedMeeting.notifyAt = some (secondOfDay 3300) ∧
      (inMemory {}).Serves (Awaits awaitedMeeting) awaitedMeeting
        (SchedulerRun.readings (lateTicks 3245 3335)) ∧
      Awaits awaitedMeeting awaitingStore ∧
      ∃ r r', SchedulerRun.start? {} false 0 = some r ∧
        r.run (lateTicks 3245 3335) = some r' ∧
        ∃ status log w',
          (inMemory {}).logged.perform r.loop ((lateTicks 3245 3335).map Prod.snd) .idle
              [] awaitingStore = (((r'.loop, status), log), w') ∧
          ∃ now ∈ SchedulerRun.readings (lateTicks 3245 3335),
            awaitedMeeting.announcement now ∈ log := by
  have hserves : (inMemory {}).Serves (Awaits awaitedMeeting) awaitedMeeting
      (SchedulerRun.readings (lateTicks 3245 3335)) :=
    serves_inMemory {} (by decide)
  refine ⟨by decide, hserves, awaits_awaitedMeeting, _, _, rfl, rfl, ?_⟩
  obtain ⟨_, status, log, w', hperform, hannounced⟩ :=
    announced_iff_not_between (e := awaitedMeeting) (t := secondOfDay 3300) (by decide)
      (r := ⟨.start false, ⟨60000000000, 60000000000⟩, 0⟩) rfl hserves (by decide)
      (show _ = some (secondOfDay 3245) from rfl) (show _ = some (secondOfDay 3335) from rfl)
      (by decide) (by decide) .idle awaits_awaitedMeeting
  refine ⟨status, log, w', hperform, hannounced.mpr ?_⟩
  rintro ⟨now, next, hinfix, _, hpast, _⟩
  have hpair : [now, next] = [secondOfDay 3245, secondOfDay 3335] := hinfix.eq_of_length rfl
  obtain rfl := (List.cons.inj hpair).1
  revert hpast
  decide

/-- **A notice between two ticks.**  The second tick begins thirty seconds late.  The notice of the
meeting comes after the first window and before the reading of the second tick, and no tick
announces it. -/
theorem late_tick_misses_notice :
    awaitedMeeting.notifyAt = some (secondOfDay 3300) ∧
      (inMemory {}).Serves (Awaits awaitedMeeting) awaitedMeeting
        (SchedulerRun.readings (lateTicks 3225 3315)) ∧
      Awaits awaitedMeeting awaitingStore ∧
      (SchedulerRun.readings (lateTicks 3225 3315)).IsChain (SchedulerConfig.Spaced {}) ∧
      secondOfDay 3225 < secondOfDay 3300 ∧ secondOfDay 3300 ≤ secondOfDay 3315 ∧
      ∃ r r', SchedulerRun.start? {} false 0 = some r ∧
        r.run (lateTicks 3225 3315) = some r' ∧
        ∃ status log w',
          (inMemory {}).logged.perform r.loop ((lateTicks 3225 3315).map Prod.snd) .idle
              [] awaitingStore = (((r'.loop, status), log), w') ∧
          ∀ now ∈ SchedulerRun.readings (lateTicks 3225 3315),
            awaitedMeeting.announcement now ∉ log := by
  have hserves : (inMemory {}).Serves (Awaits awaitedMeeting) awaitedMeeting
      (SchedulerRun.readings (lateTicks 3225 3315)) :=
    serves_inMemory {} (by decide)
  refine ⟨by decide, hserves, awaits_awaitedMeeting, by decide, by decide, by decide, _, _, rfl, rfl,
    ?_⟩
  obtain ⟨status, log, w', hperform, hannounced⟩ :=
    announced_iff_inWindow (e := awaitedMeeting) (t := secondOfDay 3300) (by decide)
      (r := ⟨.start false, ⟨60000000000, 60000000000⟩, 0⟩) rfl hserves .idle
      awaits_awaitedMeeting
  refine ⟨status, log, w', hperform, fun now hnow hmem => ?_⟩
  obtain ⟨now, hnow, hin⟩ := hannounced.mp ⟨now, hnow, hmem⟩
  revert now
  decide

end Scheduler

end Reminders
