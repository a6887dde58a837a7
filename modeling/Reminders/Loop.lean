/-!
# Loop — working until told to stop

The scheduler and the sender are loops of one kind.  At its head a loop looks at the signal that
tells it to stop.  Then it waits for whichever comes first: a task, the end of the tasks, a change
of the signal, or the loss of everyone who could give the signal.  A task that was begun is carried
out in full before the loop looks at the signal again.

The loop is a machine whose steps are triggered by events, so that a run is a list of events in any
order.  If a task and the signal come at once, either may be taken.
-/

namespace Reminders

/-- What a loop with tasks of type `α` is doing. -/
inductive LoopPhase (α : Type) where
  /-- It is about to look at the signal. -/
  | checking
  /-- It waits for a task or for the signal. -/
  | waiting
  /-- It carries out a task. -/
  | working (task : α)
  | stopped
deriving DecidableEq

/-- A loop with the signal that it listens to. -/
structure Loop (α : Type) where
  phase : LoopPhase α
  /-- The signal tells the loop to stop. -/
  isShutdown : Bool
  /-- The signal has changed since the loop was started, or nobody can change it any more. -/
  isRoused : Bool
deriving DecidableEq

/-- What may happen to a loop. -/
inductive LoopEvent (α : Type) where
  /-- It looks at the signal. -/
  | check
  /-- It takes up a task. -/
  | take (task : α)
  /-- It has carried out its task. -/
  | finish
  /-- It learns that there are no more tasks. -/
  | exhaust
  /-- It notices that the signal has changed or was abandoned. -/
  | notice
  /-- It is told to stop. -/
  | shutdown
  /-- The last one who could tell it to stop goes away. -/
  | abandon
deriving DecidableEq

namespace Loop

variable {α : Type}

/-- A loop before its first step. -/
def start (isShutdown : Bool) : Loop α where
  phase := .checking
  isShutdown := isShutdown
  isRoused := false

/-- The loop after an event, if the event is possible. -/
def step (l : Loop α) : LoopEvent α → Option (Loop α)
  | .check =>
    match l.phase with
    | .checking => some { l with phase := if l.isShutdown then .stopped else .waiting }
    | _ => none
  | .take task =>
    match l.phase with
    | .waiting => some { l with phase := .working task }
    | _ => none
  | .finish =>
    match l.phase with
    | .working _ => some { l with phase := .checking }
    | _ => none
  | .exhaust =>
    match l.phase with
    | .waiting => some { l with phase := .stopped }
    | _ => none
  | .notice =>
    match l.phase with
    | .waiting => if l.isRoused then some { l with phase := .stopped } else none
    | _ => none
  | .shutdown => some { l with isShutdown := true, isRoused := true }
  | .abandon => some { l with isRoused := true }

/-- The loop after some events, if they are possible in this order. -/
def run (l : Loop α) (events : List (LoopEvent α)) : Option (Loop α) :=
  events.foldlM step l

/-- The task that an event takes up. -/
def taken : LoopEvent α → Option α
  | .take task => some task
  | _ => none

/-- The tasks that some events take up, in order. -/
def tasks (events : List (LoopEvent α)) : List α :=
  events.filterMap taken

/-- Carries out the tasks of some events, as long as the events are possible, and returns the loop
after them. -/
def perform {m : Type → Type} [Monad m] (work : α → m Unit) :
    Loop α → List (LoopEvent α) → m (Loop α)
  | l, [] => pure l
  | l, event :: events =>
    match l.step event with
    | none => pure l
    | some l' => do
      match event with
      | .take task => work task
      | _ => pure ()
      perform work l' events

/-- How a loop is brought to its end. -/
inductive Ending where
  /-- It was told to stop before it started. -/
  | beforehand
  /-- It is told to stop while it waits. -/
  | shutdown
  /-- It is left alone while it waits. -/
  | abandon
  /-- It runs out of tasks. -/
  | exhaust
deriving DecidableEq

/-- The loop before a course with the given ending. -/
def Ending.start : Ending → Loop α
  | .beforehand => Loop.start true
  | _ => Loop.start false

/-- The events of a loop that gets some tasks in turn and then comes to its end.  A loop that was
told to stop beforehand looks at the signal and stops. -/
def course (tasks : List α) (ending : Ending) : List (LoopEvent α) :=
  let work := .check :: tasks.flatMap fun task => [.take task, .finish, .check]
  match ending with
  | .beforehand => [.check]
  | .shutdown => work ++ [.shutdown, .notice]
  | .abandon => work ++ [.abandon, .notice]
  | .exhaust => work ++ [.exhaust]

end Loop

end Reminders
