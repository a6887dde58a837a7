import Mathlib.Data.Seq.Basic
import Reminders.Proofs.Notification
import Reminders.Proofs.Sender.Handle

/-!
# Sender — any stream, whatever becomes of its messages

A stream is a finite or infinite sequence of messages, and any bytes may be one.  The sender handles
some of them from the front, in order, and only the signal makes it stop before the stream ends:
neither a message that is no notification nor a status that is refused does.

* `Draws.eq_append`: the tasks of a loop are a front of its stream.
* `Draws.atWork_or_stopped`, `AtWork.exists_run`: undisturbed, a loop goes on to the end of its
  stream.
* `accounts_of_meets`: the report as a summary of the messages and of the attempts.
* `every_stream_is_handled`: all of it for the sender.
-/

namespace Reminders

open Stream'

namespace Loop

variable {α : Type} {stream rest : Seq α} {events : List (LoopEvent α)} {l l' : Loop α}

/-- A stream brings about these events of a loop and leaves the second stream: the loop takes the
first task that is left, and learns that there are no more when none is left. -/
inductive Draws : Seq α → List (LoopEvent α) → Seq α → Prop where
  | done (stream : Seq α) : Draws stream [] stream
  | take {task : α} {stream rest : Seq α} {events : List (LoopEvent α)}
      (h : Draws stream events rest) : Draws (.cons task stream) (.take task :: events) rest
  | exhaust {rest : Seq α} {events : List (LoopEvent α)} (h : Draws .nil events rest) :
      Draws .nil (.exhaust :: events) rest
  /-- What the loop does by itself, and what is done to it. -/
  | other {event : LoopEvent α} {stream rest : Seq α} {events : List (LoopEvent α)}
      (htaken : taken event = none) (hexhaust : event ≠ .exhaust) (h : Draws stream events rest) :
      Draws stream (event :: events) rest

/-- The tasks that were taken are the front of the stream. -/
theorem Draws.eq_append (h : Draws stream events rest) :
    stream = (Seq.ofList (tasks events)).append rest := by
  induction h with
  | done stream => exact (Seq.nil_append stream).symm
  | @take task _ _ events _ ih =>
      rw [tasks_cons_take, Seq.ofList_cons, Seq.cons_append, ← ih]
  | exhaust _ ih => rwa [tasks_cons_of_none rfl]
  | other htaken _ _ ih => rwa [tasks_cons_of_none htaken]

theorem Draws.append {middle : Seq α} {events' : List (LoopEvent α)}
    (h : Draws stream events middle) (h' : Draws middle events' rest) :
    Draws stream (events ++ events') rest := by
  induction h with
  | done _ => exact h'
  | take _ ih => exact .take (ih h')
  | exhaust _ ih => exact .exhaust (ih h')
  | other htaken hexhaust _ ih => exact .other htaken hexhaust (ih h')

/-- Nothing is left of an empty stream. -/
theorem Draws.of_nil (h : Draws stream events rest) (hstream : stream = .nil) : rest = .nil := by
  induction h with
  | done _ => exact hstream
  | take _ _ => exact absurd hstream Seq.cons_ne_nil
  | exhaust _ ih => exact ih rfl
  | other _ _ _ ih => exact ih hstream

/-! ### Undisturbed loops -/

/-- Nobody tells the loop to stop, and nobody who could goes away. -/
def Undisturbed (events : List (LoopEvent α)) : Prop :=
  ∀ event ∈ events, event ≠ .shutdown ∧ event ≠ .abandon

/-- The loop is at work, and has had no sign to stop. -/
structure AtWork (l : Loop α) : Prop where
  phase : l.phase ≠ .stopped
  isShutdown : l.isShutdown = false
  isRoused : l.isRoused = false

theorem atWork_start : (start false : Loop α).AtWork :=
  ⟨nofun, rfl, rfl⟩

/-- Without a sign, only the end of the tasks takes a loop from its work. -/
theorem AtWork.step (hl : l.AtWork) {event : LoopEvent α} (h : l.step event = some l')
    (hevent : event ≠ .shutdown ∧ event ≠ .abandon) (hexhaust : event ≠ .exhaust) : l'.AtWork := by
  have hstep := of_step h
  cases event with
  | check =>
      obtain ⟨_, rfl⟩ := hstep
      exact ⟨by simp [hl.isShutdown], hl.isShutdown, hl.isRoused⟩
  | take task =>
      obtain ⟨_, rfl⟩ := hstep
      exact ⟨nofun, hl.isShutdown, hl.isRoused⟩
  | finish =>
      obtain ⟨_, _, rfl⟩ := hstep
      exact ⟨nofun, hl.isShutdown, hl.isRoused⟩
  | exhaust => exact absurd rfl hexhaust
  | notice =>
      obtain ⟨_, hroused, _⟩ := hstep
      rw [hl.isRoused] at hroused
      cases hroused
  | shutdown => exact absurd rfl hevent.1
  | abandon => exact absurd rfl hevent.2

/-- Nothing but a sign can happen to a loop that has stopped. -/
theorem eq_of_stopped (hl : l.phase = .stopped) (hevents : Undisturbed events)
    (hrun : l.run events = some l') : l' = l := by
  cases events with
  | nil => exact (Option.some.inj hrun).symm
  | cons event events =>
      obtain ⟨l₁, hstep, _⟩ := run_cons.mp hrun
      obtain ⟨⟨hshutdown, habandon⟩, _⟩ := List.forall_mem_cons.mp hevents
      have hevent := of_step hstep
      cases event with
      | check | take _ | exhaust | notice => cases hl.symm.trans hevent.1
      | finish =>
          obtain ⟨_, hphase, _⟩ := hevent
          cases hl.symm.trans hphase
      | shutdown => exact absurd rfl hshutdown
      | abandon => exact absurd rfl habandon

/-- Undisturbed, a loop stays at work until its stream ends. -/
theorem Draws.atWork_or_stopped (h : Draws stream events rest) (hl : l.AtWork)
    (hevents : Undisturbed events) (hrun : l.run events = some l') :
    l'.AtWork ∨ l'.phase = .stopped ∧ rest = .nil := by
  induction h generalizing l with
  | done _ =>
      obtain rfl := Option.some.inj hrun
      exact .inl hl
  | take _ ih =>
      obtain ⟨l₁, hstep, hrun'⟩ := run_cons.mp hrun
      obtain ⟨hevent, hevents⟩ := List.forall_mem_cons.mp hevents
      exact ih (hl.step hstep hevent nofun) hevents hrun'
  | exhaust h _ =>
      obtain ⟨l₁, hstep, hrun'⟩ := run_cons.mp hrun
      obtain ⟨_, hevents⟩ := List.forall_mem_cons.mp hevents
      obtain ⟨_, rfl⟩ := of_step hstep
      exact .inr ⟨by rw [eq_of_stopped rfl hevents hrun'], h.of_nil rfl⟩
  | other _ hexhaust _ ih =>
      obtain ⟨l₁, hstep, hrun'⟩ := run_cons.mp hrun
      obtain ⟨hevent, hevents⟩ := List.forall_mem_cons.mp hevents
      exact ih (hl.step hstep hevent hexhaust) hevents hrun'

/-- A loop at work can come to wait for its next task. -/
theorem AtWork.exists_waiting (hl : l.AtWork) (stream : Seq α) :
    ∃ events, Draws stream events stream ∧ Undisturbed events ∧ tasks events = [] ∧
      l.run events = some ⟨.waiting, false, false⟩ := by
  obtain ⟨phase, isShutdown, isRoused⟩ := l
  obtain ⟨hphase, rfl, rfl⟩ := hl
  have hcheck : ∀ (events : List (LoopEvent α)), Draws stream events stream →
      Draws stream (.check :: events) stream := fun _ h => .other rfl nofun h
  cases phase with
  | checking =>
      exact ⟨[.check], hcheck _ (.done _), List.forall_mem_singleton.mpr ⟨nofun, nofun⟩, rfl, rfl⟩
  | waiting => exact ⟨[], .done _, nofun, rfl, rfl⟩
  | working task =>
      exact ⟨[.finish, .check], .other rfl nofun (hcheck _ (.done _)),
        List.forall_mem_cons.mpr ⟨⟨nofun, nofun⟩, List.forall_mem_singleton.mpr ⟨nofun, nofun⟩⟩,
        rfl, rfl⟩
  | stopped => exact absurd rfl hphase

/-- A loop at work can go on with any number of further tasks, and to the end of a stream that has
one. -/
theorem AtWork.exists_run (hl : l.AtWork) (more : List α) (rest : Seq α) :
    ∃ events l', Draws ((Seq.ofList more).append rest) events rest ∧ Undisturbed events ∧
      tasks events = more ∧ l.run events = some l' ∧ (rest = .nil → l'.phase = .stopped) := by
  induction more generalizing l with
  | nil =>
      obtain ⟨events, hdraws, hevents, htasks, hrun⟩ := hl.exists_waiting rest
      rw [Seq.ofList_nil, Seq.nil_append]
      by_cases hrest : rest = .nil
      · subst hrest
        refine ⟨events ++ [.exhaust], ⟨.stopped, false, false⟩,
          hdraws.append (.exhaust (.done _)), ?_, ?_, run_append.mpr ⟨_, hrun, rfl⟩, fun _ => rfl⟩
        · exact List.forall_mem_append.mpr ⟨hevents, List.forall_mem_singleton.mpr ⟨nofun, nofun⟩⟩
        · rw [tasks_append, htasks]
          rfl
      · exact ⟨events, _, hdraws, hevents, htasks, hrun, fun h => absurd h hrest⟩
  | cons task more ih =>
      obtain ⟨events, hdraws, hevents, htasks, hrun⟩ :=
        hl.exists_waiting ((Seq.ofList (task :: more)).append rest)
      have hworking : (⟨.working task, false, false⟩ : Loop α).AtWork := ⟨nofun, rfl, rfl⟩
      obtain ⟨events', l', hdraws', hevents', htasks', hrun', hstopped⟩ := ih hworking
      have htake :
          Draws ((Seq.ofList (task :: more)).append rest) (.take task :: events') rest := by
        rw [Seq.ofList_cons, Seq.cons_append]
        exact .take hdraws'
      refine ⟨events ++ .take task :: events', l', hdraws.append htake, ?_, ?_,
        run_append.mpr ⟨_, hrun, run_cons.mpr ⟨_, rfl, hrun'⟩⟩, hstopped⟩
      · exact List.forall_mem_append.mpr
          ⟨hevents, List.forall_mem_cons.mpr ⟨⟨nofun, nofun⟩, hevents'⟩⟩
      · rw [tasks_append, htasks, tasks_cons_take, htasks', List.nil_append]

end Loop

namespace Sender

variable {σ : Type} {s : Sender (StateM σ)}

/-! ### Watching changes nothing -/

theorem count_eq (body : Bytes) (r : SenderReport) (log : List Attempt) (w : σ) :
    s.count body r w = ((s.logged.count body r log w).1.1, (s.logged.count body r log w).2) := by
  cases hdecode : Notification.decode body with
  | error fault =>
      rw [count_undecodable hdecode]
      simp only [count, handle, hdecode]
      rfl
  | ok n =>
      rcases hclock : s.clock w with ⟨now, w₁⟩
      rcases hpublish : s.statuses.publish DeliveryStatus.routingKey
        (DeliveryStatus.delivered n now).encode w₁ with ⟨result, w₂⟩
      have hhandle : s.handle body w =
          ((result.map fun _ => DeliveryStatus.delivered n now).mapError .unpublished, w₂) := by
        simp only [handle, hdecode]
        refine (bind_of_eq_pure hclock).trans ((bind_of_eq_pure hpublish).trans ?_)
        cases result <;> rfl
      have hcount : s.count body r w = (((), r.add (s.handle body w).1), (s.handle body w).2) := rfl
      rw [count_notification hdecode r log hclock hpublish, hcount, hhandle]
      cases result <;> rfl

theorem forM_count_eq (bodies : List Bytes) (r : SenderReport) (log : List Attempt) (w : σ) :
    bodies.forM s.count r w =
      ((bodies.forM s.logged.count r log w).1.1, (bodies.forM s.logged.count r log w).2) := by
  induction bodies generalizing r log w with
  | nil => rfl
  | cons body bodies ih =>
      rcases hcount : s.logged.count body r log w with ⟨⟨⟨⟨⟩, r'⟩, log'⟩, w'⟩
      have hplain := count_eq (s := s) body r log w
      rw [hcount] at hplain
      have hcons : (body :: bodies).forM s.count r =
          s.count body r >>= fun p => bodies.forM s.count p.2 :=
        rfl
      have hcons' : (body :: bodies).forM s.logged.count r =
          s.logged.count body r >>= fun p => bodies.forM s.logged.count p.2 :=
        rfl
      rw [hcons, hcons', bind_of_eq_pure hplain, bind_of_eq_pure₂ hcount]
      exact ih r' log' w'

theorem process_eq {l l' : Loop Bytes} {events : List (LoopEvent Bytes)}
    (hrun : l.run events = some l') (log : List Attempt) (w : σ) :
    s.process l events w =
      ((s.logged.process l events log w).1.1, (s.logged.process l events log w).2) := by
  have hplain : s.process l events w =
      (((Loop.tasks events).forM s.count {} w).1.2, ((Loop.tasks events).forM s.count {} w).2) := by
    rw [process, Loop.perform_of_run _ hrun]
    rfl
  have hlogged : s.logged.process l events log w =
      ((((Loop.tasks events).forM s.logged.count {} log w).1.1.2,
        ((Loop.tasks events).forM s.logged.count {} log w).1.2),
        ((Loop.tasks events).forM s.logged.count {} log w).2) := by
    rw [process, Loop.perform_of_run _ hrun]
    rfl
  rw [hplain, hlogged, forM_count_eq (Loop.tasks events) {} log w]

/-! ### The account of a sender -/

/-- The attempt, if any, by which a message was answered: a notification by one attempt to publish
its status, whose body reads back as that status, whatever came of it, and any other message by
none. -/
def AnsweredBy (body : Bytes) : Option Attempt → Prop
  | none => ∃ fault, Notification.decode body = .error fault
  | some attempt => ∃ (n : Notification) (status : DeliveryStatus),
      Notification.decode body = .ok n ∧ attempt.key = "notification_status" ∧
        attempt.body = status.encode ∧ DeliveryStatus.decode attempt.body = .ok status.settled ∧
        status.notificationId = n.id ∧ status.eventId = n.id ∧ status.userId = n.userId ∧
        status.status = .delivered

/-- The report accounts for some messages and for the attempts by which they were answered. -/
structure Accounts (bodies : List Bytes) (attempts : List (Option Attempt))
    (report : SenderReport) : Prop where
  answered : List.Forall₂ AnsweredBy bodies attempts
  received : report.received = bodies.length
  total : report.received = report.acknowledged + report.dropped + report.failed
  dropped : report.dropped = bodies.countP fun body => !(Notification.decode body).isOk
  failed : report.failed = attempts.reduceOption.countP fun attempt => !attempt.result.isOk

theorem answeredBy_of_meets {answer : Except ChannelError Unit → Prop} {body : Bytes}
    {attempt : Option Attempt} (h : Meets answer body attempt) : AnsweredBy body attempt := by
  rw [Meets] at h
  cases hdecode : Notification.decode body with
  | error fault =>
      rw [hdecode] at h
      obtain rfl : attempt = none := h
      exact ⟨fault, hdecode⟩
  | ok n =>
      rw [hdecode] at h
      obtain ⟨now, result, _, rfl⟩ := h
      exact ⟨n, .delivered n now, hdecode, rfl, rfl, DeliveryStatus.decode_encode _, rfl, rfl, rfl,
        rfl⟩

/-- Each message adds itself to the report. -/
theorem tally_of_answeredBy {body : Bytes} {attempt : Option Attempt} (h : AnsweredBy body attempt)
    (r : SenderReport) :
    (tally r attempt).received = r.received + 1 ∧
      (tally r attempt).dropped =
        r.dropped + [body].countP (fun body => !(Notification.decode body).isOk) ∧
      (tally r attempt).failed =
        r.failed + attempt.toList.countP (fun attempt => !attempt.result.isOk) ∧
      (tally r attempt).acknowledged + (tally r attempt).dropped + (tally r attempt).failed =
        r.acknowledged + r.dropped + r.failed + 1 := by
  rcases attempt with _ | ⟨key, body', _ | ⟨⟨⟩⟩⟩
  · obtain ⟨fault, hdecode⟩ := h
    simp [tally, hdecode, Except.isOk, Except.toBool]
    omega
  · obtain ⟨n, _, hdecode, _⟩ := h
    simp [tally, hdecode, Except.isOk, Except.toBool]
    omega
  · obtain ⟨n, _, hdecode, _⟩ := h
    simp [tally, hdecode, Except.isOk, Except.toBool]
    omega

theorem foldl_tally {bodies : List Bytes} {attempts : List (Option Attempt)}
    (h : List.Forall₂ AnsweredBy bodies attempts) (r : SenderReport) :
    (attempts.foldl tally r).received = r.received + bodies.length ∧
      (attempts.foldl tally r).dropped =
        r.dropped + bodies.countP (fun body => !(Notification.decode body).isOk) ∧
      (attempts.foldl tally r).failed =
        r.failed + attempts.reduceOption.countP (fun attempt => !attempt.result.isOk) ∧
      (attempts.foldl tally r).acknowledged + (attempts.foldl tally r).dropped +
          (attempts.foldl tally r).failed =
        r.acknowledged + r.dropped + r.failed + bodies.length := by
  induction h generalizing r with
  | nil => exact ⟨rfl, rfl, rfl, rfl⟩
  | @cons body attempt bodies attempts hanswered _ ih =>
      obtain ⟨hreceived, hdropped, hfailed, htotal⟩ := ih (tally r attempt)
      obtain ⟨hreceived', hdropped', hfailed', htotal'⟩ := tally_of_answeredBy hanswered r
      have hbodies : ([body] ++ bodies).countP (fun body => !(Notification.decode body).isOk) = _ :=
        List.countP_append
      have hattempts : (attempt :: attempts).reduceOption =
          attempt.toList ++ attempts.reduceOption := by
        cases attempt with
        | none => exact List.reduceOption_cons_of_none attempts
        | some _ => exact List.reduceOption_cons_of_some _ attempts
      rw [List.singleton_append] at hbodies
      rw [List.foldl_cons, hattempts, List.countP_append, hbodies, List.length_cons]
      omega

theorem accounts_of_meets {answer : Except ChannelError Unit → Prop} {bodies : List Bytes}
    {attempts : List (Option Attempt)} (h : List.Forall₂ (Meets answer) bodies attempts) :
    Accounts bodies attempts (attempts.foldl tally {}) := by
  have hanswered : List.Forall₂ AnsweredBy bodies attempts := h.imp fun _ _ => answeredBy_of_meets
  obtain ⟨hreceived, hdropped, hfailed, htotal⟩ := foldl_tally hanswered {}
  simp only [Nat.zero_add] at hreceived hdropped hfailed htotal
  exact ⟨hanswered, hreceived, hreceived.trans htotal.symm, hdropped, hfailed⟩

/-- **Every stream is handled.**  Let a sender take its messages from any stream, and let its clock
and the channel of its statuses answer as they like.  What it has handled after some events, among
which it may be told to stop at any time, is a front of the stream, in order; each message was
answered as it should be, and the report accounts for it.

As long as the sender is not told to stop, and those who could tell it do not go away, it stops only
when it has handled the whole stream; and until then it can go on with any number of further
messages, and to the end of the stream if there is one. -/
theorem every_stream_is_handled (s : Sender (StateM σ)) {stream rest : Seq Bytes}
    {isShutdown : Bool} {events : List (LoopEvent Bytes)} {l : Loop Bytes}
    (hdraws : Loop.Draws stream events rest)
    (hrun : (Loop.start isShutdown).run events = some l) (log : List Attempt) (w : σ) :
    (∃ attempts report w', stream = (Seq.ofList (Loop.tasks events)).append rest ∧
      s.process (Loop.start isShutdown) events w = (report, w') ∧
      s.logged.process (Loop.start isShutdown) events log w =
        ((report, log ++ attempts.reduceOption), w') ∧
      Accounts (Loop.tasks events) attempts report) ∧
    (isShutdown = false → Loop.Undisturbed events →
      (l.phase = .stopped → stream = Seq.ofList (Loop.tasks events)) ∧
      (l.phase ≠ .stopped → ∀ more rest', rest = (Seq.ofList more).append rest' →
        ∃ events' l', Loop.Draws rest events' rest' ∧ Loop.Undisturbed events' ∧
          Loop.tasks events' = more ∧ l.run events' = some l' ∧
          (rest' = .nil → l'.phase = .stopped))) := by
  have hfront := hdraws.eq_append
  constructor
  · have hs : s.Answers (fun _ => True) (fun _ => True) :=
      ⟨fun _ _ _ _ => ⟨trivial, trivial⟩, fun _ _ => trivial⟩
    obtain ⟨attempts, w', hmeets, _, hprocess⟩ := process_logged hs hrun log trivial
    refine ⟨attempts, _, w', hfront, ?_, hprocess, accounts_of_meets hmeets⟩
    rw [process_eq hrun log w, hprocess]
  · rintro rfl hevents
    have hend := hdraws.atWork_or_stopped Loop.atWork_start hevents hrun
    refine ⟨fun hstopped => ?_, fun hworking more rest' hrest => ?_⟩
    · rcases hend with hl | ⟨_, rfl⟩
      · exact absurd hstopped hl.phase
      · rw [hfront, Seq.append_nil]
    · rcases hend with hl | ⟨hstopped, _⟩
      · rw [hrest]
        exact hl.exists_run more rest'
      · exact absurd hstopped hworking

/-- A sender of whose statuses every second one is refused. -/
def flaky : Sender (StateM Nat) where
  statuses := {
    publish := fun _ _ n => (if n % 2 = 0 then .ok () else .error (.backend "refused"), n + 1)
    consume := fun _ => pure (.ok ())
    close := pure (.ok ()) }
  clock := pure .earliest

/-- The reminder of a meeting. -/
def reminder : Notification :=
  ⟨"a", "Meeting", "", "u1", .earliest, .earliest⟩

/-- Bytes that are no notification, and reminders. -/
def mixedBodies : List Bytes :=
  [[0x00], reminder.encode, reminder.encode, reminder.encode]

/-- While the loop is at its third task it is told to stop. -/
def interruptedEvents : List (LoopEvent Bytes) :=
  [.check, .take [0x00], .finish, .check, .take reminder.encode, .finish, .check,
    .take reminder.encode, .shutdown, .finish, .check]

theorem draws_interruptedEvents :
    Loop.Draws (Seq.ofList mixedBodies) interruptedEvents (Seq.ofList [reminder.encode]) := by
  simp only [mixedBodies, Seq.ofList_cons]
  exact .other rfl nofun (.take (.other rfl nofun (.other rfl nofun (.take (.other rfl nofun
    (.other rfl nofun (.take (.other rfl nofun (.other rfl nofun (.other rfl nofun
      (.done _)))))))))))

/-- The sender that is told to stop accounts for the three messages that it has handled; had it not
been told after the first one, it could have gone on to the end. -/
theorem interrupted_sender_accounts :
    Loop.Draws (Seq.ofList mixedBodies) interruptedEvents (Seq.ofList [reminder.encode]) ∧
      (Loop.start false).run interruptedEvents = some ⟨.stopped, true, true⟩ ∧
      (∃ attempts w',
        flaky.logged.process (Loop.start false) interruptedEvents [] 0 =
          ((⟨3, 1, 1, 1⟩, attempts.reduceOption), w') ∧
        Accounts [[0x00], reminder.encode, reminder.encode] attempts ⟨3, 1, 1, 1⟩) ∧
      ∃ events l, Loop.tasks events = [reminder.encode, reminder.encode, reminder.encode] ∧
        (⟨.working [0x00], false, false⟩ : Loop Bytes).run events = some l ∧
        l.phase = .stopped := by
  have hrun : (Loop.start false).run interruptedEvents = some ⟨.stopped, true, true⟩ := rfl
  have hreport : (flaky.process (Loop.start false) interruptedEvents 0).1 = ⟨3, 1, 1, 1⟩ := by
    decide +kernel
  obtain ⟨⟨attempts, report, w', _, hprocess, hlogged, haccounts⟩, _⟩ :=
    every_stream_is_handled flaky draws_interruptedEvents hrun [] 0
  obtain rfl : report = ⟨3, 1, 1, 1⟩ := by
    rw [← hreport, hprocess]
  refine ⟨draws_interruptedEvents, hrun, ⟨attempts, w', hlogged, haccounts⟩, ?_⟩
  have hfirst : Loop.Draws (Seq.ofList mixedBodies) [.check, .take [0x00]]
      (Seq.ofList [reminder.encode, reminder.encode, reminder.encode]) := by
    rw [mixedBodies, Seq.ofList_cons]
    exact .other rfl nofun (.take (.done _))
  obtain ⟨_, hundisturbed⟩ := every_stream_is_handled flaky hfirst
    (show (Loop.start false).run _ = some ⟨.working [0x00], false, false⟩ from rfl) [] 0
  obtain ⟨_, hgoes⟩ := hundisturbed rfl
    (List.forall_mem_cons.mpr ⟨⟨nofun, nofun⟩, List.forall_mem_singleton.mpr ⟨nofun, nofun⟩⟩)
  obtain ⟨events, l, _, _, htasks, hl, hstopped⟩ := hgoes nofun
    [reminder.encode, reminder.encode, reminder.encode] .nil (Seq.append_nil _).symm
  exact ⟨events, l, htasks, hl, hstopped rfl⟩

end Sender

end Reminders
