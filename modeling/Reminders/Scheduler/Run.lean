import Reminders.Loop
import Reminders.Scheduler.Tick

/-!
# Scheduler — running

While it runs, the scheduler ticks once in every interval, for the first time one interval after its
start.  The time between ticks is measured by a clock that only goes forward; each tick is given the
reading of the calendar clock at which it begins.  A tick that begins late moves the following ones.
-/

namespace Reminders

/-- The timer of a running scheduler; times are nanoseconds of a clock that only goes forward. -/
structure Timer where
  /-- The time between two ticks. -/
  period : Nat
  /-- The next tick begins at this time or later. -/
  deadline : Nat
deriving DecidableEq

namespace Timer

/-- The clock holds whole seconds below this bound. -/
def clockBound : Nat := bound63

/-- The time is one that the clock can show. -/
def isShown (time : Nat) : Bool :=
  time / 1000000000 < clockBound

/-- A timer for the given interval, which counts as at least a millisecond.  There is none if its
first deadline lies beyond the clock: then the task halts. -/
def start? (interval clock : Nat) : Option Timer :=
  let period := max interval 1000000
  if isShown (clock + period) then some ⟨period, clock + period⟩ else none

/-- A tick that begins later than this after its deadline counts as late. -/
def tolerance : Nat := 5000000

/-- The timer after a tick has begun: the next deadline follows the last one, or the present if the
tick was late. -/
def next (t : Timer) (clock : Nat) : Timer :=
  let base := if t.deadline + tolerance < clock then clock else t.deadline
  { t with deadline := base + t.period }

end Timer

/-- The status of a scheduler whose loop is in a phase. -/
def SchedulerStatus.ofPhase : LoopPhase Instant → SchedulerStatus
  | .working _ => .processing
  | .stopped => .stopped
  | .checking | .waiting => .idle

/-- A running scheduler; the tasks of its loop are ticks, named by their readings. -/
structure SchedulerRun where
  loop : Loop Instant
  timer : Timer
  /-- The time of the last event. -/
  clock : Nat
deriving DecidableEq

namespace SchedulerRun

/-- The scheduler at its start; none if its timer cannot be set. -/
def start? (config : SchedulerConfig) (isShutdown : Bool) (clock : Nat) : Option SchedulerRun :=
  (Timer.start? config.interval clock).map fun timer => ⟨Loop.start isShutdown, timer, clock⟩

/-- The scheduler after an event at a time, if the event is possible then.  A tick begins only when
its deadline has come, and ticks never run out. -/
def step (r : SchedulerRun) (clock : Nat) (event : LoopEvent Instant) : Option SchedulerRun :=
  if clock < r.clock then none
  else match event with
  | .take _ =>
    if r.timer.deadline ≤ clock then
      (r.loop.step event).map fun loop => ⟨loop, r.timer.next clock, clock⟩
    else none
  | .exhaust => none
  | event => (r.loop.step event).map fun loop => ⟨loop, r.timer, clock⟩

/-- The scheduler after some events, if they are possible at these times. -/
def run (r : SchedulerRun) (events : List (Nat × LoopEvent Instant)) : Option SchedulerRun :=
  events.foldlM (fun r timed => r.step timed.1 timed.2) r

/-- The readings of the ticks that some events begin. -/
def readings (events : List (Nat × LoopEvent Instant)) : List Instant :=
  Loop.tasks (events.map Prod.snd)

/-- What the scheduler is doing. -/
def status (r : SchedulerRun) : SchedulerStatus :=
  .ofPhase r.loop.phase

end SchedulerRun

namespace Scheduler

variable {m : Type → Type} [Monad m]

/-- Runs the loop through some events, with the tick of each reading, and shows meanwhile what the
scheduler is doing. -/
def perform (s : Scheduler m) (l : Loop Instant) (events : List (LoopEvent Instant)) :
    StateT SchedulerStatus m (Loop Instant) := do
  let l ← l.perform (fun now => do let _ ← s.tickShown now) events
  if l.phase = .stopped then set SchedulerStatus.stopped
  return l

end Scheduler

end Reminders
