import Reminders.Bus.Database

/-!
# Bus — what becomes of claimed messages

A poll takes the rows of its messages out of the table before the messages are in the stream.  While
the reader stays, messages leave the consumer in the order in which they were claimed: those in the
stream first, then those of the batch that wait outside.  A consumer that notices the shutdown in
the middle of a batch stops at once, and what waits outside the stream is lost.

* `moves_of_step`: what an event does to the messages on their way.
* `step_keeps_messages`: no event loses a message but the notice of the shutdown.
* `claims_eq_of_run`: what was claimed, what was yielded and what is left.
* `claimed_unless_closed_in_batch`: what the reader of an ended stream has got.
* `close_loses_claimed_message`: a message that was claimed and is not yielded.
-/

namespace Reminders.Consumer

open Database

variable {c c' : Consumer} {event : ConsumerEvent} {events : List ConsumerEvent}

/-- The claimed messages that were not yielded yet: those in the stream, and those outside it. -/
def pending (c : Consumer) : List Bytes :=
  c.buffer ++ c.held

/-- The message that an event puts into the stream. -/
def forwarded (c : Consumer) : ConsumerEvent → List Bytes
  | .forward => c.held.head?.toList
  | _ => []

/-- The messages that an event leaves behind outside the stream. -/
def abandoned (c : Consumer) : ConsumerEvent → List Bytes
  | .noticeShutdown => c.held
  | _ => []

/-- What some events bring about in turn, as long as they are possible. -/
def gathered (f : Consumer → ConsumerEvent → List Bytes) :
    Consumer → List ConsumerEvent → List Bytes
  | _, [] => []
  | c, event :: events =>
    match c.step event with
    | some c' => f c event ++ gathered f c' events
    | none => []

/-- The messages that some events take out of the table. -/
def claims (c : Consumer) (events : List ConsumerEvent) : List Bytes :=
  gathered claimed c events

/-- The messages that some events put into the stream. -/
def forwards (c : Consumer) (events : List ConsumerEvent) : List Bytes :=
  gathered forwarded c events

/-- The messages that some events hand to the reader. -/
def yields (c : Consumer) (events : List ConsumerEvent) : List Bytes :=
  gathered yielded c events

/-- The messages that some events leave behind outside the stream. -/
def losses (c : Consumer) (events : List ConsumerEvent) : List Bytes :=
  gathered abandoned c events

theorem gathered_cons {f : Consumer → ConsumerEvent → List Bytes} (h : c.step event = some c')
    (events : List ConsumerEvent) :
    gathered f c (event :: events) = f c event ++ gathered f c' events := by
  rw [gathered, h]

theorem run_cons : c.run (event :: events) = some c' ↔
    ∃ c₁, c.step event = some c₁ ∧ c₁.run events = some c' := by
  simp only [run, List.foldlM_cons, Option.bind_eq_bind, Option.bind_eq_some_iff]

/-- A condition that an event keeps, and under which it lacks an effect, holds to the end, and no
event has the effect. -/
theorem run_keeps {f : Consumer → ConsumerEvent → List Bytes} (Keeps : Consumer → Prop)
    (hstep : ∀ {c event c'}, c.step event = some c' → Keeps c → Keeps c' ∧ f c event = [])
    (hrun : c.run events = some c') (hc : Keeps c) : Keeps c' ∧ gathered f c events = [] := by
  induction events generalizing c with
  | nil =>
      obtain rfl := Option.some.inj hrun
      exact ⟨hc, rfl⟩
  | cons event events ih =>
      obtain ⟨c₁, hfirst, hrest⟩ := run_cons.mp hrun
      obtain ⟨hkept, hnone⟩ := hstep hfirst hc
      obtain ⟨hend, hlater⟩ := ih hrest hkept
      exact ⟨hend, by rw [gathered_cons hfirst, hnone, hlater, List.append_nil]⟩

/-! ### One event -/

/-- What an event does to the messages on their way: claimed messages wait outside the stream in
order, then they are in the stream in order, then the reader gets them.  Only a reader that drops
the stream takes messages out of it otherwise, and only a consumer that stops leaves messages
behind. -/
structure Moves (c : Consumer) (event : ConsumerEvent) (c' : Consumer) : Prop where
  stream : event ≠ .dropReader → c.buffer ++ c.forwarded event = c.yielded event ++ c'.buffer
  batch : event ≠ .noticeReaderGone →
    c.held ++ c.claimed event = c.forwarded event ++ c'.held ++ c.abandoned event
  reader : event ≠ .dropReader → c'.readerGone = c.readerGone

theorem moves_of_step (h : c.step event = some c') : c.Moves event c' := by
  cases event with
  | poll | skipPoll | batchDone | wake =>
      obtain ⟨hphase, ⟨⟩⟩ := Option.ite_none_right_eq_some.mp h
      exact ⟨fun _ => by simp [forwarded, yielded],
        fun _ => by simp [held, claimed, forwarded, abandoned, hphase], fun _ => rfl⟩
  | shutdown =>
      obtain rfl := Option.some.inj h
      exact ⟨fun _ => by simp [forwarded, yielded],
        fun _ => by simp [held, claimed, forwarded, abandoned], fun _ => rfl⟩
  | reply reply =>
      obtain ⟨hphase, h⟩ := Option.ite_none_right_eq_some.mp h
      rcases habsorb : c.poller.absorb reply with ⟨detail | messages, p⟩ <;>
      · rw [habsorb] at h
        obtain rfl := Option.some.inj h
        exact ⟨fun _ => by simp [forwarded, yielded],
          fun _ => by simp [held, claimed, forwarded, abandoned, hphase, habsorb], fun _ => rfl⟩
  | forward =>
      simp only [step] at h
      split at h
      · next body rest hphase =>
          obtain ⟨_, ⟨⟩⟩ := Option.ite_none_right_eq_some.mp h
          exact ⟨fun _ => by simp [held, forwarded, yielded, hphase],
            fun _ => by simp [held, claimed, forwarded, abandoned, hphase], fun _ => rfl⟩
      · cases h
  | noticeReaderGone =>
      simp only [step] at h
      split at h
      · obtain ⟨_, ⟨⟩⟩ := Option.ite_none_right_eq_some.mp h
        exact ⟨fun _ => by simp [forwarded, yielded], absurd rfl, fun _ => rfl⟩
      · cases h
  | noticeShutdown =>
      simp only [step] at h
      split at h
      · next body rest hphase =>
          obtain ⟨_, ⟨⟩⟩ := Option.ite_none_right_eq_some.mp h
          exact ⟨fun _ => by simp [forwarded, yielded],
            fun _ => by simp [held, claimed, forwarded, abandoned, hphase], fun _ => rfl⟩
      · next hphase =>
          obtain ⟨_, ⟨⟩⟩ := Option.ite_none_right_eq_some.mp h
          exact ⟨fun _ => by simp [forwarded, yielded],
            fun _ => by simp [held, claimed, forwarded, abandoned, hphase], fun _ => rfl⟩
      · cases h
  | read =>
      simp only [step] at h
      split at h
      · next body rest hbuffer =>
          obtain ⟨_, ⟨⟩⟩ := Option.ite_none_left_eq_some.mp h
          exact ⟨fun _ => by simp [forwarded, yielded, hbuffer],
            fun _ => by simp [held, claimed, forwarded, abandoned], fun _ => rfl⟩
      · cases h
  | dropReader =>
      obtain ⟨_, ⟨⟩⟩ := Option.ite_none_left_eq_some.mp h
      exact ⟨absurd rfl, fun _ => by simp [held, claimed, forwarded, abandoned], absurd rfl⟩

/-- A reader that is gone is noticed only then. -/
theorem not_noticed_of_present (h : c.step event = some c') (hpresent : c.readerGone = false) :
    event ≠ .noticeReaderGone := by
  rintro rfl
  simp only [step] at h
  split at h
  · rw [if_neg (by rw [hpresent]; decide)] at h
    cases h
  · cases h

/-- As long as the reader stays, an event passes messages on in order, and loses only those that it
abandons. -/
theorem step_keeps_messages (h : c.step event = some c') (hpresent : c.readerGone = false)
    (hstays : event ≠ .dropReader) :
    c.pending ++ c.claimed event = c.yielded event ++ c'.pending ++ c.abandoned event ∧
      c'.readerGone = false := by
  have hmoves := moves_of_step h
  refine ⟨?_, (hmoves.reader hstays).trans hpresent⟩
  calc c.pending ++ c.claimed event
      = c.buffer ++ c.forwarded event ++ (c'.held ++ c.abandoned event) := by
        rw [pending, List.append_assoc, hmoves.batch (not_noticed_of_present h hpresent)]
        simp only [List.append_assoc]
    _ = c.yielded event ++ c'.pending ++ c.abandoned event := by
        rw [hmoves.stream hstays, pending]
        simp only [List.append_assoc]

/-- A consumer that has stopped claims nothing more, and abandons nothing. -/
theorem step_stopped (h : c.step event = some c') (hstopped : c.phase = .stopped) :
    c'.phase = .stopped ∧ c.claimed event = [] ∧ c.abandoned event = [] := by
  cases event with
  | poll | skipPoll | batchDone | wake | reply | forward | noticeReaderGone | noticeShutdown =>
      simp [step, hstopped] at h
  | read =>
      simp only [step] at h
      split at h
      · obtain ⟨_, ⟨⟩⟩ := Option.ite_none_left_eq_some.mp h
        exact ⟨hstopped, rfl, rfl⟩
      · cases h
  | dropReader =>
      obtain ⟨_, ⟨⟩⟩ := Option.ite_none_left_eq_some.mp h
      exact ⟨hstopped, rfl, rfl⟩
  | shutdown =>
      obtain rfl := Option.some.inj h
      exact ⟨hstopped, rfl, rfl⟩

/-- A consumer that abandons messages stops. -/
theorem stopped_of_abandoned (h : c.step event = some c') (hlost : c.abandoned event ≠ []) :
    event = .noticeShutdown ∧ c.isShutdown = true ∧
      c.phase = .forwarding (c.abandoned event) ∧ c'.phase = .stopped := by
  cases event with
  | noticeShutdown =>
      simp only [step] at h
      split at h
      · next body rest hphase =>
          obtain ⟨hshutdown, ⟨⟩⟩ := Option.ite_none_right_eq_some.mp h
          exact ⟨rfl, hshutdown, by simp [abandoned, held, hphase], rfl⟩
      · next hphase => exact absurd (by simp [abandoned, held, hphase]) hlost
      · cases h
  | _ => exact absurd rfl hlost

/-! ### Some events in turn -/

/-- A consumer that has stopped claims nothing more, and loses nothing. -/
theorem run_stopped (hrun : c.run events = some c') (hstopped : c.phase = .stopped) :
    c.claims events = [] ∧ c.losses events = [] := by
  constructor
  · refine (run_keeps (·.phase = .stopped) (fun hstep h => ?_) hrun hstopped).2
    obtain ⟨hstopped', hclaimed, _⟩ := step_stopped hstep h
    exact ⟨hstopped', hclaimed⟩
  · refine (run_keeps (·.phase = .stopped) (fun hstep h => ?_) hrun hstopped).2
    obtain ⟨hstopped', _, habandoned⟩ := step_stopped hstep h
    exact ⟨hstopped', habandoned⟩

/-- **What is claimed.**  As long as the reader stays, the messages claimed are those that were
yielded, those that are pending and those that were lost, in this order. -/
theorem claims_eq_of_run (hrun : c.run events = some c') (hpresent : c.readerGone = false)
    (hstays : .dropReader ∉ events) :
    c.pending ++ c.claims events = c.yields events ++ c'.pending ++ c.losses events := by
  -- By induction on the events: once messages were lost, nothing is claimed any more.
  induction events generalizing c with
  | nil =>
      obtain rfl := Option.some.inj hrun
      simp [claims, yields, losses, gathered]
  | cons event events ih =>
      obtain ⟨c₁, hstep, hrest⟩ := run_cons.mp hrun
      obtain ⟨hne, hstays⟩ := List.ne_and_not_mem_of_not_mem_cons hstays
      obtain ⟨hkept, hpresent₁⟩ := step_keeps_messages hstep hpresent (Ne.symm hne)
      have hlater : c₁.pending ++ c₁.claims events = c₁.yields events ++ c'.pending ++
          c₁.losses events :=
        ih hrest hpresent₁ hstays
      have hclaims : c.claims (event :: events) = c.claimed event ++ c₁.claims events :=
        gathered_cons hstep events
      have hyields : c.yields (event :: events) = c.yielded event ++ c₁.yields events :=
        gathered_cons hstep events
      have hlosses : c.losses (event :: events) = c.abandoned event ++ c₁.losses events :=
        gathered_cons hstep events
      have hswap : c.abandoned event ++ c₁.claims events = c₁.claims events ++ c.abandoned event ∧
          c.abandoned event ++ c₁.losses events = c₁.losses events ++ c.abandoned event := by
        by_cases hlost : c.abandoned event = []
        · simp [hlost]
        · obtain ⟨_, _, _, hstopped⟩ := stopped_of_abandoned hstep hlost
          obtain ⟨hnone, hnone'⟩ := run_stopped hrest hstopped
          simp [hnone, hnone']
      calc c.pending ++ c.claims (event :: events)
          = c.yielded event ++ c₁.pending ++ (c.abandoned event ++ c₁.claims events) := by
            rw [hclaims, ← List.append_assoc, hkept, List.append_assoc]
        _ = c.yielded event ++ (c₁.pending ++ c₁.claims events) ++ c.abandoned event := by
            rw [hswap.1]
            simp only [List.append_assoc]
        _ = c.yields (event :: events) ++ c'.pending ++ c.losses (event :: events) := by
            rw [hlater, hyields, hlosses, hswap.2]
            simp only [List.append_assoc]

/-- Messages are lost only where the shutdown is noticed in the middle of a batch. -/
theorem exists_notice_of_losses (hrun : c.run events = some c') (hlost : c.losses events ≠ []) :
    ∃ before after c₁, events = before ++ .noticeShutdown :: after ∧ c.run before = some c₁ ∧
      c₁.isShutdown = true ∧ c₁.phase = .forwarding (c.losses events) := by
  induction events generalizing c with
  | nil => exact absurd rfl hlost
  | cons event events ih =>
      obtain ⟨c₁, hstep, hrest⟩ := run_cons.mp hrun
      have hlosses : c.losses (event :: events) = c.abandoned event ++ c₁.losses events :=
        gathered_cons hstep events
      by_cases hhere : c.abandoned event = []
      · rw [hlosses, hhere, List.nil_append] at hlost ⊢
        obtain ⟨before, after, c₂, rfl, hbefore, h⟩ := ih hrest hlost
        exact ⟨event :: before, after, c₂, rfl, run_cons.mpr ⟨c₁, hstep, hbefore⟩, h⟩
      · obtain ⟨rfl, hshutdown, hphase, hstopped⟩ := stopped_of_abandoned hstep hhere
        obtain ⟨_, hnone⟩ := run_stopped hrest hstopped
        rw [hlosses, hnone, List.append_nil]
        exact ⟨[], events, c, rfl, rfl, hshutdown, hphase⟩

/-- **What the reader gets.**  Let a reader take messages from the stream of a consumer until the
stream is at its end.  It gets the claimed messages in order, all of them unless the consumer
noticed the shutdown in the middle of a batch: then the messages of that batch that were not in the
stream yet are lost. -/
theorem claimed_unless_closed_in_batch {channel : DatabaseChannel} {queue : String}
    (hrun : (start channel queue).run events = some c) (hstays : .dropReader ∉ events)
    (hended : c.isEnded = true) :
    ∃ lost, (start channel queue).claims events = (start channel queue).yields events ++ lost ∧
      (lost ≠ [] → ∃ before after c₁, events = before ++ .noticeShutdown :: after ∧
        (start channel queue).run before = some c₁ ∧ c₁.isShutdown = true ∧
        c₁.phase = .forwarding lost) := by
  obtain ⟨hstopped, hempty⟩ := Bool.and_eq_true_iff.mp hended
  have hpending : c.pending = [] := by
    rw [pending, held, of_decide_eq_true hstopped, List.isEmpty_iff.mp hempty]
    rfl
  have hclaims := claims_eq_of_run hrun rfl hstays
  rw [hpending, List.append_nil] at hclaims
  exact ⟨_, hclaims, exists_notice_of_losses hrun⟩

/-- A channel whose streams hold one message. -/
def narrowChannel : DatabaseChannel :=
  .ofBindings "notifications" [⟨"notifications", "#"⟩] { batchSize := 1 }

/-- A reply with one message. -/
def oneMessage (id : Int) (body : Bytes) : Reply :=
  .rows [[.integer id, .bytes body]]

/-- Two messages are claimed one by one, and the first one fills the stream.  Then the channel is
closed, and the reader takes what it gets. -/
def interrupted : List ConsumerEvent :=
  [.poll, .reply (oneMessage 1 [49]), .forward, .batchDone, .wake, .poll,
    .reply (oneMessage 2 [50]), .shutdown, .noticeShutdown, .read]

/-- The consumer at the end of the interrupted run. -/
def interruptedConsumer : Consumer :=
  ⟨.start "notifications" { batchSize := 1 }, .stopped, 1, [], false, true⟩

theorem run_interrupted :
    (start narrowChannel "notifications").run interrupted = some interruptedConsumer := by
  decide +kernel

theorem interrupted_stops_in_batch :
    (start narrowChannel "notifications").run interrupted = some interruptedConsumer ∧
      .dropReader ∉ interrupted ∧ interruptedConsumer.isEnded = true ∧
      ∃ lost, (start narrowChannel "notifications").claims interrupted =
          (start narrowChannel "notifications").yields interrupted ++ lost ∧
        (lost ≠ [] → ∃ before after c₁, interrupted = before ++ .noticeShutdown :: after ∧
          (start narrowChannel "notifications").run before = some c₁ ∧ c₁.isShutdown = true ∧
          c₁.phase = .forwarding lost) :=
  ⟨run_interrupted, by decide, by decide,
    claimed_unless_closed_in_batch run_interrupted (by decide) (by decide)⟩

/-- **A message is lost.**  The second message was claimed, the reader stays until the stream is at
its end, and does not get it. -/
theorem close_loses_claimed_message :
    ∃ c, (start narrowChannel "notifications").run interrupted = some c ∧
      .dropReader ∉ interrupted ∧ c.isEnded = true ∧
      (start narrowChannel "notifications").claims interrupted = [[49], [50]] ∧
      (start narrowChannel "notifications").yields interrupted = [[49]] := by
  refine ⟨interruptedConsumer, run_interrupted, by decide, by decide, ?_, ?_⟩
  · decide +kernel
  · decide +kernel

end Reminders.Consumer
