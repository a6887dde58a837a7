import Reminders.Proofs.Loop
import Reminders.Proofs.Scheduler.Run
import Reminders.Sender.Handle

/-!
# Shutdown — how the two loops stop

A loop looks at the signal only at its head.  So a loop that is told to stop while it waits may take
up one more task, if the task and the signal come at once, and a loop that is told to stop at any
other time takes up none.  A task that was taken up is carried out in full: the loop leaves it only
by finishing it.

* `tasks_length_le_openings`: what a loop takes up after it was told to stop.
* `tasks_eq_completions`: what becomes of the tasks that a loop takes up.
* `stopsInOrder`: both together, for a loop from its start.
* `loops_stop_in_order`: the scheduler and the sender.
-/

namespace Reminders

namespace Loop

variable {α : Type} {l l' : Loop α} {event : LoopEvent α} {events : List (LoopEvent α)}

/-- The task in progress. -/
def current (l : Loop α) : Option α :=
  match l.phase with
  | .working task => some task
  | _ => none

/-- The task that an event brings to its end. -/
def completed (l : Loop α) : LoopEvent α → Option α
  | .finish => l.current
  | _ => none

/-- The tasks that some events bring to their end, in order, as long as the events are possible. -/
def completions : Loop α → List (LoopEvent α) → List α
  | _, [] => []
  | l, event :: events =>
    match l.step event with
    | some l' => (l.completed event).toList ++ completions l' events
    | none => []

/-- The number of tasks that a loop can take up before it comes to its head. -/
def openings (l : Loop α) : Nat :=
  match l.phase with
  | .waiting => 1
  | _ => 0

/-! ### Tasks after the signal -/

/-- A loop that was told to stop stays told, and what it takes up was open to it. -/
theorem step_of_isShutdown (h : l.step event = some l') (htold : l.isShutdown = true) :
    l'.isShutdown = true ∧ (taken event).toList.length + l'.openings ≤ l.openings := by
  cases event with
  | check =>
      obtain ⟨hphase, rfl⟩ := of_step h
      exact ⟨htold, by simp [openings, taken, htold]⟩
  | take task | exhaust =>
      obtain ⟨hphase, rfl⟩ := of_step h
      exact ⟨htold, by simp [openings, taken, hphase]⟩
  | finish =>
      obtain ⟨task, hphase, rfl⟩ := of_step h
      exact ⟨htold, Nat.zero_le _⟩
  | notice =>
      obtain ⟨hphase, _, rfl⟩ := of_step h
      exact ⟨htold, Nat.zero_le _⟩
  | shutdown =>
      obtain rfl := Option.some.inj h
      exact ⟨rfl, Nat.le_of_eq (Nat.zero_add _)⟩
  | abandon =>
      obtain rfl := Option.some.inj h
      exact ⟨htold, Nat.le_of_eq (Nat.zero_add _)⟩

/-- Once it was told to stop, a loop takes up one task if it waits, and none otherwise. -/
theorem tasks_length_le_openings (hrun : l.run events = some l') (htold : l.isShutdown = true) :
    (tasks events).length ≤ l.openings := by
  -- By induction on the events: no event that follows the signal makes an opening.
  induction events generalizing l with
  | nil => exact Nat.zero_le _
  | cons event events ih =>
      obtain ⟨l₁, hstep, hrest⟩ := run_cons.mp hrun
      obtain ⟨htold₁, hopen⟩ := step_of_isShutdown hstep htold
      have hlater : (tasks events).length ≤ l₁.openings := ih hrest htold₁
      rw [tasks_cons, List.length_append]
      omega

theorem openings_le_one (l : Loop α) : l.openings ≤ 1 := by
  rw [openings]
  split <;> decide

theorem tasks_length_le_one {before after : List (LoopEvent α)}
    (hrun : l.run (before ++ .shutdown :: after) = some l') : (tasks after).length ≤ 1 := by
  obtain ⟨l₁, _, hrest⟩ := run_append.mp hrun
  obtain ⟨l₂, hstep, hafter⟩ := run_cons.mp hrest
  obtain rfl := Option.some.inj hstep
  exact Nat.le_trans (tasks_length_le_openings hafter rfl) (openings_le_one _)

/-- A loop at its head stays there, and takes up nothing, until it looks at the signal. -/
theorem checking_of_run (hrun : l.run events = some l') (hhead : l.phase = .checking)
    (hcheck : .check ∉ events) : l'.phase = .checking ∧ tasks events = [] := by
  induction events generalizing l with
  | nil =>
      obtain rfl := Option.some.inj hrun
      exact ⟨hhead, rfl⟩
  | cons event events ih =>
      obtain ⟨l₁, hstep, hrest⟩ := run_cons.mp hrun
      obtain ⟨hne, hlater⟩ := List.ne_and_not_mem_of_not_mem_cons hcheck
      cases event with
      | check => exact absurd rfl hne
      | take task | finish | exhaust | notice => simp [step, hhead] at hstep
      | shutdown | abandon =>
          obtain rfl := Option.some.inj hstep
          rw [tasks_cons_of_none rfl]
          exact ih hrest hhead hlater

/-- A loop that was told to stop before it looks at the signal takes up nothing. -/
theorem tasks_eq_nil_of_isShutdown (hrun : l.run events = some l') (hhead : l.phase = .checking)
    (htold : l.isShutdown = true) : tasks events = [] := by
  have hnone : l.openings = 0 := by rw [openings, hhead]
  exact List.eq_nil_of_length_eq_zero
    (Nat.le_zero.mp (hnone ▸ tasks_length_le_openings hrun htold))

/-! ### Tasks in progress -/

/-- The task in progress stays until it is finished, and a task that is taken up is in progress. -/
theorem step_current (h : l.step event = some l') :
    l.current.toList ++ (taken event).toList =
      (l.completed event).toList ++ l'.current.toList := by
  cases event with
  | check =>
      obtain ⟨hphase, rfl⟩ := of_step h
      cases hshutdown : l.isShutdown <;> simp [current, completed, taken, hphase]
  | take task | exhaust =>
      obtain ⟨hphase, rfl⟩ := of_step h
      simp [current, completed, taken, hphase]
  | finish =>
      obtain ⟨task, hphase, rfl⟩ := of_step h
      simp [current, completed, taken, hphase]
  | notice =>
      obtain ⟨hphase, _, rfl⟩ := of_step h
      simp [current, completed, taken, hphase]
  | shutdown | abandon =>
      obtain rfl := Option.some.inj h
      exact List.append_nil _

/-- A loop finishes what it was at and what it takes up, in order, but for what it is at now. -/
theorem tasks_eq_completions (hrun : l.run events = some l') :
    l.current.toList ++ tasks events = l.completions events ++ l'.current.toList := by
  -- By induction on the events, one account for each.
  induction events generalizing l with
  | nil =>
      obtain rfl := Option.some.inj hrun
      simp [tasks, completions]
  | cons event events ih =>
      obtain ⟨l₁, hstep, hrest⟩ := run_cons.mp hrun
      have hcompletions : l.completions (event :: events) =
          (l.completed event).toList ++ l₁.completions events := by
        rw [completions, hstep]
      calc l.current.toList ++ tasks (event :: events)
          = (l.completed event).toList ++ (l₁.current.toList ++ tasks events) := by
            rw [tasks_cons, ← List.append_assoc, step_current hstep, List.append_assoc]
        _ = l.completions (event :: events) ++ l'.current.toList := by
            rw [ih hrest, hcompletions, List.append_assoc]

/-! ### A loop from its start -/

/-- What holds of a loop `l'` that has gone through these events since its start. -/
structure StopsInOrder (isShutdown : Bool) (events : List (LoopEvent α)) (l' : Loop α) :
    Prop where
  /-- After it is told to stop, the loop takes up at most one task. -/
  atMostOne : ∀ before after, events = before ++ .shutdown :: after → (tasks after).length ≤ 1
  /-- It takes up none if it was told before it was started, or before it looked at the signal. -/
  noneIfToldBefore : (isShutdown = true ∨
    ∃ before after, events = before ++ .shutdown :: after ∧ .check ∉ before) → tasks events = []
  /-- It has finished all tasks that it took up, in order, but for the one in progress. -/
  finishes : tasks events = (start isShutdown).completions events ++ l'.current.toList
  /-- No task is in progress when it has stopped. -/
  idleAtEnd : l'.phase = .stopped → l'.current = none

theorem stopsInOrder {isShutdown : Bool} (hrun : (start isShutdown).run events = some l') :
    StopsInOrder isShutdown events l' where
  atMostOne before after heq := tasks_length_le_one (heq ▸ hrun)
  noneIfToldBefore := by
    rintro (rfl | ⟨before, after, rfl, hcheck⟩)
    · exact tasks_eq_nil_of_isShutdown hrun rfl rfl
    · obtain ⟨l₁, hbefore, hrest⟩ := run_append.mp hrun
      obtain ⟨l₂, hstep, hafter⟩ := run_cons.mp hrest
      obtain rfl := Option.some.inj hstep
      obtain ⟨hhead, hnone⟩ := checking_of_run hbefore rfl hcheck
      have hlater : tasks after = [] := tasks_eq_nil_of_isShutdown hafter hhead rfl
      rw [tasks_append, hnone, tasks_cons_of_none rfl, hlater, List.append_nil]
  finishes := tasks_eq_completions hrun
  idleAtEnd hstopped := by rw [current, hstopped]

end Loop

/-! ### The scheduler -/

variable {m : Type → Type} [Monad m] [LawfulMonad m]

theorem SchedulerRun.loop_of_start? {config : SchedulerConfig} {isShutdown : Bool} {clock : Nat}
    {r : SchedulerRun} (h : start? config isShutdown clock = some r) :
    r.loop = .start isShutdown := by
  obtain ⟨timer, _, rfl⟩ := Option.map_eq_some_iff.mp h
  rfl

/-- A scheduler that comes to its end ticks at each reading in full, and is stopped at last. -/
theorem Scheduler.perform_of_stopped (s : Scheduler m) {l l' : Loop Instant}
    {events : List (LoopEvent Instant)} (hrun : l.run events = some l')
    (hstopped : l'.phase = .stopped) :
    s.perform l events = do
      (Loop.tasks events).forM fun now => do let _ ← s.tickShown now
      set SchedulerStatus.stopped
      return l' := by
  rw [perform_of_run s hrun, if_pos hstopped]

/-! ### The sender -/

/-- A sender handles and counts each message that it takes in full. -/
theorem Sender.process_of_run (s : Sender m) {l l' : Loop Bytes} {events : List (LoopEvent Bytes)}
    (hrun : l.run events = some l') :
    s.process l events = do
      let (_, report) ← ((Loop.tasks events).forM s.count).run {}
      return report := by
  rw [process, Loop.perform_of_run _ hrun, StateT.run_bind, bind_assoc]
  simp only [StateT.run_pure, pure_bind]

/-! ### Both -/

/-- **The loops stop in order.**  After it is told to stop, a scheduler begins at most one tick, and
a sender takes at most one message; none, if it was told before it looked at the signal for the
first time.  All ticks and messages are carried out in full.  A scheduler whose run has ended shows
that it has stopped, and no tick is in progress. -/
theorem loops_stop_in_order {n : Type → Type} [Monad n] [LawfulMonad n] (s : Scheduler m)
    (sender : Sender n) {isShutdown isShutdown' : Bool} {clock : Nat} {r r' : SchedulerRun}
    {timed : List (Nat × LoopEvent Instant)} {l' : Loop Bytes} {events : List (LoopEvent Bytes)}
    (hstart : SchedulerRun.start? s.config isShutdown clock = some r)
    (hrun : r.run timed = some r') (hevents : (Loop.start isShutdown').run events = some l') :
    (Loop.StopsInOrder isShutdown (timed.map Prod.snd) r'.loop ∧
      (r'.loop.phase = .stopped → r'.status = .stopped ∧
        s.perform r.loop (timed.map Prod.snd) = do
          (SchedulerRun.readings timed).forM fun now => do let _ ← s.tickShown now
          set SchedulerStatus.stopped
          return r'.loop)) ∧
    (Loop.StopsInOrder isShutdown' events l' ∧
      (l'.phase = .stopped →
        sender.process (.start isShutdown') events = do
          let (_, report) ← ((Loop.tasks events).forM sender.count).run {}
          return report)) := by
  have hloop : r.loop.run (timed.map Prod.snd) = some r'.loop := SchedulerRun.loop_of_run hrun
  have hticks := hloop
  rw [SchedulerRun.loop_of_start? hstart] at hticks
  refine ⟨⟨Loop.stopsInOrder hticks, fun hstopped => ⟨?_, s.perform_of_stopped hloop hstopped⟩⟩,
    Loop.stopsInOrder hevents, fun _ => sender.process_of_run hevents⟩
  rw [SchedulerRun.status, hstopped, SchedulerStatus.ofPhase]

/-- A scheduler is told to stop at the moment its first tick is due, and begins the tick. -/
def tickAtShutdown : List (Nat × LoopEvent Instant) :=
  [(0, .check), (60000000000, .shutdown), (60000000000, .take (Scheduler.secondOfDay 60)),
    (60000000000, .finish), (60000000000, .check)]

/-- A sender is told to stop when a message has come, and takes the message. -/
def messageAtShutdown : List (LoopEvent Bytes) :=
  [.check, .shutdown, .take [110], .finish, .check]

/-- A sender in memory whose clock stands still. -/
def stillSender : Sender (StateM MemoryChannel) :=
  ⟨MemoryChannel.channel, pure (Scheduler.secondOfDay 60)⟩

/-- The tick and the message that come with the signal are carried out, and then both loops stop. -/
theorem loops_stop_after_last_task :
    ∃ r r' l', SchedulerRun.start? {} false 0 = some r ∧ r.run tickAtShutdown = some r' ∧
      (Loop.start false).run messageAtShutdown = some l' ∧
      r'.loop.phase = .stopped ∧ l'.phase = .stopped ∧ r'.status = .stopped ∧
      (Loop.start false).completions (tickAtShutdown.map Prod.snd) = [Scheduler.secondOfDay 60] ∧
      (Loop.start false).completions messageAtShutdown = [[110]] := by
  have hstart : SchedulerRun.start? {} false 0 =
      some ⟨.start false, ⟨60000000000, 60000000000⟩, 0⟩ := rfl
  have hticks : SchedulerRun.run ⟨.start false, ⟨60000000000, 60000000000⟩, 0⟩ tickAtShutdown =
      some ⟨⟨.stopped, true, true⟩, ⟨60000000000, 120000000000⟩, 60000000000⟩ := rfl
  have hmessages : (Loop.start false).run messageAtShutdown = some ⟨.stopped, true, true⟩ := rfl
  obtain ⟨⟨hinorder, hatEnd⟩, hinorder', _⟩ :=
    loops_stop_in_order (Scheduler.inMemory {}) stillSender hstart hticks hmessages
  exact ⟨_, _, _, hstart, hticks, hmessages, rfl, rfl, (hatEnd rfl).1, hinorder.finishes.symm,
    hinorder'.finishes.symm⟩

end Reminders
