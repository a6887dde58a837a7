import Reminders.Config.Error
import Reminders.Number.Decimal
import Reminders.Yaml.Typed

/-!
# Bus — pace of polling

A queue in a database is asked for messages at intervals.  The interval starts at its minimum, goes
back to it whenever messages were found, and is multiplied while the queue is idle or fails, up to
its maximum.
-/

namespace Reminders

/-- The pace at which a queue is polled.  Intervals are in nanoseconds. -/
structure PollerConfig where
  minInterval : Nat := 100000000
  maxInterval : Nat := 5000000000
  multiplier : Binary64 := .ofRatio false 3 2
  /-- The number of messages that one poll takes. -/
  batchSize : Nat := 10
deriving DecidableEq

namespace PollerConfig

/-- Reads an interval in milliseconds. -/
def milliseconds : Yaml.Typed Nat := fun d n =>
  (Yaml.natural bound64 d n).map (· * 1000000)

/-- Reads the section `poller`. -/
def typed : Yaml.Typed PollerConfig :=
  Yaml.sectionOf {} [
    .of "min_interval" (fun c v => { c with minInterval := v }) milliseconds,
    .of "max_interval" (fun c v => { c with maxInterval := v }) milliseconds,
    .of "backoff_multiplier" (fun c v => { c with multiplier := v }) Yaml.float,
    .of "batch_size" (fun c v => { c with batchSize := v }) (Yaml.natural bound64)]

/-- The pace with another multiplier, which is at least one. -/
def withMultiplier (c : PollerConfig) (multiplier : Binary64) : PollerConfig :=
  { c with multiplier := multiplier.atLeastOne }

/-- The pace with another batch size, which is at least one. -/
def withBatchSize (c : PollerConfig) (batchSize : Nat) : PollerConfig :=
  { c with batchSize := max batchSize 1 }

/-- The rules of the section. -/
def validate (c : PollerConfig) : Except ConfigError Unit :=
  if c.minInterval = 0 ∨ c.maxInterval < c.minInterval then
    .error (.invalid "bus.poller intervals must be positive with min <= max")
  else if !c.multiplier.isFinite || c.multiplier.ltOne then
    .error (.invalid ("bus.poller.backoff_multiplier must be a finite number >= 1, got " ++
      c.multiplier.write))
  else if c.batchSize = 0 then
    .error (.invalid "bus.poller.batch_size must be at least 1")
  else .ok ()

/-- The interval after an idle or failed poll: the product of the current one and the multiplier,
rounded to a nanosecond and kept between the minimum and the maximum.  A product that is no
interval counts as the maximum. -/
def nextInterval (c : PollerConfig) (current : Nat) : Nat :=
  let product := ((Binary64.ofNanoseconds current).mul c.multiplier).toNanoseconds?
  min (max (product.getD c.maxInterval) c.minInterval) c.maxInterval

end PollerConfig

end Reminders
