import Reminders.Proofs.Bus.Memory
import Reminders.Proofs.Loop

/-!
# Sender — the stream of a queue

A sender takes its messages from the stream of a queue in memory.  An *attendance* is a run of its
loop from the start to the end in which every message is the next one of the stream, the loop learns
that there are no more only when the stream has ended, and nobody tells it to stop or goes away.

* `attendance_iff`: at a closed channel there is exactly one attendance, which takes all messages
  that the queue holds, in order.
-/

namespace Reminders.MemoryChannel

open Loop

/-- The stream of the queue brings about these events of a loop and leaves the second channel. -/
inductive Feeds (queue : String) :
    MemoryChannel → List (LoopEvent Bytes) → MemoryChannel → Prop where
  | done (c : MemoryChannel) : Feeds queue c [] c
  | take {c c₁ c₂ : MemoryChannel} {body : Bytes} {events : List (LoopEvent Bytes)}
      (hr : c.receive queue = (.message body, c₁)) (h : Feeds queue c₁ events c₂) :
      Feeds queue c (.take body :: events) c₂
  | exhaust {c c₁ c₂ : MemoryChannel} {events : List (LoopEvent Bytes)}
      (hr : c.receive queue = (.ended, c₁)) (h : Feeds queue c₁ events c₂) :
      Feeds queue c (.exhaust :: events) c₂
  /-- What the loop does by itself. -/
  | other {c c₂ : MemoryChannel} {event : LoopEvent Bytes} {events : List (LoopEvent Bytes)}
      (he : event = .check ∨ event = .finish ∨ event = .notice) (h : Feeds queue c events c₂) :
      Feeds queue c (event :: events) c₂

/-- A complete run of a loop that takes its tasks from the stream of the queue. -/
def IsAttendance (c : MemoryChannel) (queue : String) (events : List (LoopEvent Bytes)) : Prop :=
  ∃ c' l, Feeds queue c events c' ∧ (start false).run events = some l ∧ l.phase = .stopped

variable {c c' : MemoryChannel} {queue : String} {bodies : List Bytes}
  {events : List (LoopEvent Bytes)}

/-- The events of a loop in the given phase that gets these messages. -/
def eventsFrom (bodies : List Bytes) : LoopPhase Bytes → List (LoopEvent Bytes)
  | .checking => .check :: untilExhausted bodies
  | .waiting => untilExhausted bodies
  | .working _ => .finish :: .check :: untilExhausted bodies
  | .stopped => []

/-- There is no choice: in each phase the loop can do one thing only, and the stream says which
message comes next. -/
theorem Feeds.eq_eventsFrom (h : Feeds queue c events c') (hc : c.Drains queue bodies)
    {phase : LoopPhase Bytes} {l : Loop Bytes}
    (hrun : (⟨phase, false, false⟩ : Loop Bytes).run events = some l) (hl : l.phase = .stopped) :
    events = eventsFrom bodies phase := by
  -- By induction on the events: the phase admits one event only, and for a waiting loop the queue
  -- decides between a message and the end.
  induction h generalizing phase bodies with
  | done c =>
      obtain rfl := Option.some.inj hrun
      obtain rfl : phase = .stopped := hl
      rfl
  | take hr h ih =>
      obtain ⟨l₁, hstep, hrun'⟩ := run_cons.mp hrun
      cases phase with
      | checking | working _ | stopped => cases hstep
      | waiting =>
          obtain rfl := Option.some.inj hstep
          cases bodies with
          | nil =>
              rw [hc.receive_nil] at hr
              cases hr
          | cons body bodies =>
              obtain ⟨hbody, hrest⟩ := hc.receive_cons
              rw [hr] at hbody hrest
              cases hbody
              rw [ih hrest hrun']
              rfl
  | exhaust hr h ih =>
      obtain ⟨l₁, hstep, hrun'⟩ := run_cons.mp hrun
      cases phase with
      | checking | working _ | stopped => cases hstep
      | waiting =>
          obtain rfl := Option.some.inj hstep
          cases bodies with
          | nil =>
              rw [hc.receive_nil] at hr
              cases hr
              rw [ih hc hrun']
              rfl
          | cons body bodies =>
              obtain ⟨hbody, _⟩ := hc.receive_cons
              rw [hr] at hbody
              cases hbody
  | other he h ih =>
      obtain ⟨l₁, hstep, hrun'⟩ := run_cons.mp hrun
      rcases he with rfl | rfl | rfl
      · cases phase with
        | waiting | working _ | stopped => cases hstep
        | checking =>
            obtain rfl := Option.some.inj hstep
            rw [ih hc hrun']
            rfl
      · cases phase with
        | checking | waiting | stopped => cases hstep
        | working _ =>
            obtain rfl := Option.some.inj hstep
            rw [ih hc hrun']
            rfl
      · cases phase <;> cases hstep

/-- The stream brings about the events of a loop that waits. -/
theorem feeds_untilExhausted (hc : c.Drains queue bodies) :
    ∃ c', Feeds queue c (untilExhausted bodies) c' := by
  induction bodies generalizing c with
  | nil => exact ⟨c, .exhaust hc.receive_nil (.done c)⟩
  | cons body bodies ih =>
      obtain ⟨hbody, hrest⟩ := hc.receive_cons
      obtain ⟨c', h⟩ := ih hrest
      have hr : c.receive queue = (.message body, (c.receive queue).2) := Prod.ext hbody rfl
      exact ⟨c', .take hr (.other (.inr (.inl rfl)) (.other (.inl rfl) h))⟩

/-- At a closed channel there is exactly one attendance: it takes all that the queue holds, in
order. -/
theorem attendance_iff (hc : c.Drains queue bodies) :
    c.IsAttendance queue events ↔ events = course bodies .exhaust := by
  rw [course_exhaust]
  constructor
  · rintro ⟨c', l, h, hrun, hl⟩
    exact h.eq_eventsFrom hc hrun hl
  · rintro rfl
    obtain ⟨c', h⟩ := feeds_untilExhausted hc
    exact ⟨c', _, .other (.inl rfl) h, run_cons.mpr ⟨_, rfl, run_untilExhausted bodies⟩, rfl⟩

end Reminders.MemoryChannel
