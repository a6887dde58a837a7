import Reminders.Bus.Channel
import Reminders.Notification
import Reminders.Scheduler.Config
import Reminders.Store.Basic

/-!
# Scheduler — ticks

A tick at the reading `now` lists the events that become due within the next interval, publishes
one notification for each in the order of the listing, and then removes the events that ended
longer ago than the retention period.  It always comes to its end: a failure of the store or of the
channel is counted and stops nothing.
-/

namespace Reminders

/-- What the scheduler is doing. -/
inductive SchedulerStatus where
  /-- It waits for the next tick. -/
  | idle
  /-- A tick is in progress. -/
  | processing
  /-- It has stopped. -/
  | stopped
deriving DecidableEq

def SchedulerStatus.name : SchedulerStatus → String
  | .idle => "Idle"
  | .processing => "Processing"
  | .stopped => "Stopped"

/-- What one tick did. -/
structure TickReport where
  /-- The number of events listed as due. -/
  due : Nat
  /-- The number of notifications that the channel accepted. -/
  published : Nat
  /-- The number of notifications that the channel refused. -/
  failed : Nat
  /-- The number of events removed. -/
  purged : Nat
deriving DecidableEq

namespace SchedulerConfig

/-- The end of the window of a tick, or the last instant if the window is longer than time. -/
def windowEnd (c : SchedulerConfig) (now : Instant) : Instant :=
  now.later c.interval

/-- Events that ended before this instant are removed by a tick. -/
def cutoff (c : SchedulerConfig) (now : Instant) : Instant :=
  now.earlier c.retention

end SchedulerConfig

/-- A scheduler: the store that it watches and the channel to which it publishes. -/
structure Scheduler (m : Type → Type) where
  store : EventStore m
  channel : NotificationChannel m
  config : SchedulerConfig

namespace Scheduler

variable {m : Type → Type} [Monad m]

/-- Publishes the notification of an event, made at `now`. -/
def remind (s : Scheduler m) (now : Instant) (e : Event) : m (Except ChannelError Unit) :=
  let n := Notification.forEvent e now
  s.channel.publish n.routingKey n.encode

/-- Publishes the notifications of some events in turn. -/
def remindAll (s : Scheduler m) (now : Instant) : List Event → m (List (Except ChannelError Unit))
  | [] => pure []
  | e :: es => do
    let result ← s.remind now e
    let results ← remindAll s now es
    return result :: results

/-- The report of a tick, from what the listing found, what became of each notification, and what
the cleanup returned. -/
def report (due : List Event) (results : List (Except ChannelError Unit))
    (purged : Except StoreError Nat) : TickReport where
  due := due.length
  published := (results.filter Except.isOk).length
  failed := (results.filter fun r => !r.isOk).length
  purged := purged.toOption.getD 0

/-- One tick at the reading `now`. -/
def tick (s : Scheduler m) (now : Instant) : m TickReport := do
  let listed ← s.store.listDueBefore now (s.config.windowEnd now)
  let due := listed.toOption.getD []
  let results ← s.remindAll now due
  let purged ← s.store.deleteOlderThan (s.config.cutoff now)
  return report due results purged

/-- One tick, while the scheduler shows what it is doing. -/
def tickShown (s : Scheduler m) (now : Instant) : StateT SchedulerStatus m TickReport := do
  set SchedulerStatus.processing
  let report ← s.tick now
  set SchedulerStatus.idle
  return report

/-- Ticks at some readings in turn. -/
def tickAll (s : Scheduler m) : List Instant → m (List TickReport)
  | [] => pure []
  | now :: readings => do
    let report ← s.tick now
    let reports ← tickAll s readings
    return report :: reports

end Scheduler

end Reminders
