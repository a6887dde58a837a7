import Reminders.Proofs.Bus.Agreement
import Reminders.Proofs.Settings
import Reminders.Proofs.Text.Digits

/-!
# Limits — which accepted settings run

The checks of the settings bound the interval of the scheduler and the batch of a consumer from
below only.  They are bounded from above where they are used: the first deadline of the scheduler
must be a time that the clock can show, and the stream of a consumer must have room for a batch,
but a stream has no room for more than `maxCapacity` messages.  Settings beyond these limits are
accepted, and the task that uses them halts.

* `runs_iff`, `halts_iff`: the scheduler; `runs_iff_of_seconds`: the same in seconds.
* `applyEnv_ofInterval`: a variable can ask for every number of seconds with 64 bits.
* `consume_of_isFree`: the consumer.
* `accepted_settings_run_in_limits`: both; `accepted_settings_halt`: two settings beyond the limits.
-/

namespace Reminders

open Database

/-! ### The scheduler -/

/-- A waiting scheduler can take up a tick at its deadline and at any time after that. -/
theorem SchedulerRun.isSome_take_iff {r : SchedulerRun} (hphase : r.loop.phase = .waiting)
    (hclock : r.clock ≤ r.timer.deadline) (later : Nat) (now : Instant) :
    (r.step later (.take now)).isSome = true ↔ r.timer.deadline ≤ later := by
  have htake : r.loop.step (.take now) = some { r.loop with phase := .working now } := by
    rw [Loop.step, hphase]
  rw [step]
  by_cases hdue : r.timer.deadline ≤ later
  · rw [if_neg (by omega), if_pos hdue, htake]
    exact iff_of_true rfl hdue
  · refine iff_of_false ?_ hdue
    by_cases hearly : later < r.clock
    · rw [if_pos hearly]
      nofun
    · rw [if_neg hearly, if_neg hdue]
      nofun

namespace SchedulerConfig

/-- The time between two ticks, which is at least a millisecond. -/
def period (c : SchedulerConfig) : Nat :=
  max c.interval 1000000

/-- The clock can show the first deadline of a scheduler that starts at the given time. -/
def IsInReach (c : SchedulerConfig) (clock : Nat) : Prop :=
  clock + c.period < Timer.clockBound * 1000000000

instance (c : SchedulerConfig) (clock : Nat) : Decidable (c.IsInReach clock) :=
  inferInstanceAs (Decidable (_ < _))

/-- A scheduler can be started at the given time, whether or not it was told to stop.  If it was
not, it waits, and can begin its first tick once the period has passed and no earlier. -/
structure Runs (c : SchedulerConfig) (clock : Nat) : Prop where
  starts : ∀ isShutdown, ∃ r, SchedulerRun.start? c isShutdown clock = some r ∧
    r.timer.deadline = clock + c.period
  waits : ∃ r waiting, SchedulerRun.start? c false clock = some r ∧
    r.step clock .check = some waiting ∧
    ∀ later now, (waiting.step later (.take now)).isSome ↔ clock + c.period ≤ later

/-- The scheduler never gets to its loop. -/
def Halts (c : SchedulerConfig) (clock : Nat) : Prop :=
  ∀ isShutdown, SchedulerRun.start? c isShutdown clock = none

variable {c : SchedulerConfig} {clock seconds : Nat}

theorem isShown_iff : Timer.isShown (clock + c.period) = true ↔ c.IsInReach clock := by
  rw [Timer.isShown, decide_eq_true_eq, Nat.div_lt_iff_lt_mul (by decide), IsInReach]

theorem start?_of_isInReach (h : c.IsInReach clock) (isShutdown : Bool) :
    SchedulerRun.start? c isShutdown clock =
      some ⟨.start isShutdown, ⟨c.period, clock + c.period⟩, clock⟩ := by
  have htimer : Timer.start? c.interval clock = some ⟨c.period, clock + c.period⟩ :=
    if_pos (isShown_iff.mpr h)
  rw [SchedulerRun.start?, htimer, Option.map_some]

theorem halts_of_not_isInReach (h : ¬ c.IsInReach clock) : c.Halts clock := by
  intro isShutdown
  have htimer : Timer.start? c.interval clock = none := if_neg (mt isShown_iff.mp h)
  rw [SchedulerRun.start?, htimer, Option.map_none]

theorem runs_of_isInReach (h : c.IsInReach clock) : c.Runs clock where
  starts isShutdown := ⟨_, start?_of_isInReach h isShutdown, rfl⟩
  waits := by
    have hcheck : SchedulerRun.step ⟨.start false, ⟨c.period, clock + c.period⟩, clock⟩ clock
        .check = some ⟨⟨.waiting, false, false⟩, ⟨c.period, clock + c.period⟩, clock⟩ :=
      if_neg (Nat.lt_irrefl clock)
    exact ⟨_, _, start?_of_isInReach h false, hcheck,
      SchedulerRun.isSome_take_iff rfl (Nat.le_add_right clock c.period)⟩

theorem Runs.not_halts (h : c.Runs clock) : ¬ c.Halts clock := by
  intro hhalts
  obtain ⟨r, hr, _⟩ := h.starts false
  rw [hhalts false] at hr
  cases hr

/-- A scheduler runs exactly if the clock can show its first deadline. -/
theorem runs_iff : c.Runs clock ↔ c.IsInReach clock :=
  ⟨fun hruns => Decidable.byContradiction fun h => hruns.not_halts (halts_of_not_isInReach h),
    runs_of_isInReach⟩

/-- Otherwise it halts. -/
theorem halts_iff : c.Halts clock ↔ ¬ c.IsInReach clock :=
  ⟨fun hhalts h => (runs_of_isInReach h).not_halts hhalts, halts_of_not_isInReach⟩

/-- The limit of an interval of whole seconds depends on the second that the clock shows. -/
theorem runs_iff_of_seconds (hpositive : 0 < seconds)
    (h : c.interval = seconds * 1000000000) :
    c.Runs clock ↔ clock / 1000000000 + seconds < Timer.clockBound := by
  have hperiod : c.period = seconds * 1000000000 := by
    rw [period, h]
    omega
  rw [runs_iff, IsInReach, hperiod, ← Nat.div_lt_iff_lt_mul (by decide),
    Nat.add_mul_div_right _ _ (by decide)]

end SchedulerConfig

/-! ### What a variable can ask for -/

namespace Environment

variable {env : Environment} {name : String}

theorem parse?_of_get?_eq_none {α : Type} {interpret : String → Option α}
    (h : env.get? name = none) : env.parse? interpret name = .ok none := by
  rw [parse?, text?, h, Option.filter_none]

/-- A variable that holds a written number is read as that number. -/
theorem natural?_of_get?_eq_digits {bound n : Nat} (hbound : n < bound)
    (h : env.get? name = some (String.ofList (Text.digits n))) :
    env.natural? bound name = .ok (some n) := by
  have hshown : ∀ c ∈ Text.digits n, Text.isBlankChar c = false :=
    fun c hc => Text.not_isBlankChar_of_isDigit (Text.isDigit_of_mem_digits hc)
  have hblank : Text.isBlank (String.ofList (Text.digits n)) = false := by
    obtain ⟨c, cs, hdigits, _⟩ := Text.exists_digits_cons n
    have hc : c ∈ Text.digits n := hdigits ▸ List.mem_cons_self
    rw [Text.isBlank, String.toList_ofList, List.all_eq_false]
    exact ⟨c, hc, Bool.eq_false_iff.mp (hshown c hc)⟩
  have htext : env.text? name = some (String.ofList (Text.digits n)) := by
    rw [text?, h]
    exact if_pos (congrArg Bool.not hblank)
  have hread : Text.natBelow? bound (Text.trim (String.ofList (Text.digits n))) = some n := by
    rw [Text.trim_eq_self hshown, Text.natBelow?_digits hbound]
  rw [natural?, parse?, htext]
  simp only [hread]

/-- The environment that asks for an interval of the scheduler in seconds. -/
def ofInterval (seconds : Nat) : Environment :=
  ⟨[("SCHEDULER_INTERVAL_SECS", String.ofList (Text.digits seconds))]⟩

end Environment

namespace SchedulerConfig

variable {c : SchedulerConfig} {seconds : Nat}

theorem applyEnv_ofInterval (c : SchedulerConfig) (h : seconds < bound64) :
    c.applyEnv (.ofInterval seconds) = .ok { c with interval := seconds * 1000000000 } := by
  have hinterval : (Environment.ofInterval seconds).natural? bound64 "SCHEDULER_INTERVAL_SECS" =
      .ok (some seconds) := Environment.natural?_of_get?_eq_digits h rfl
  have hretention : (Environment.ofInterval seconds).natural? bound64 "SCHEDULER_RETENTION_SECS" =
      .ok none := Environment.parse?_of_get?_eq_none rfl
  rw [applyEnv, hinterval, hretention]
  rfl

/-- No interval is too long for the check. -/
theorem validate_withInterval (hc : c.validate = .ok ()) {interval : Nat} (h : 0 < interval) :
    ({ c with interval := interval } : SchedulerConfig).validate = .ok () :=
  validate_eq_ok.mpr ⟨h, (validate_eq_ok.mp hc).retention⟩

end SchedulerConfig

/-! ### The consumer -/

/-- A consumer that is about to poll its queue for the first time; its stream is empty and has room
for a batch. -/
def Consumer.fresh (queue : String) (config : PollerConfig) : Consumer where
  poller := .start queue config
  phase := .polling
  capacity := config.batchSize
  buffer := []
  readerGone := false
  isShutdown := false

namespace DatabaseBus

/-- The bus once the consumer of a queue has come. -/
def attached (b : DatabaseBus) (queue : String) : DatabaseBus where
  channel := { b.channel with taken := queue :: b.channel.taken }
  consumers := b.consumers ++ [(queue, .fresh queue b.channel.poller)]

variable {b : DatabaseBus} {queue : String}

/-- The queue has no consumer yet and may get one. -/
structure IsFree (b : DatabaseBus) (queue : String) : Prop where
  isOpen : b.channel.isClosed = false
  bound : ∃ binding ∈ b.channel.bindings, binding.queue = queue
  untaken : queue ∉ b.channel.taken

/-- The consumer of a free queue comes if its stream has room for a batch, and halts otherwise. -/
theorem consume_of_isFree (hqueue : b.IsFree queue) (h : b.channel.poller.IsValid) :
    b.consume queue =
      if b.channel.poller.batchSize ≤ DatabaseChannel.maxCapacity then
        .done (.ok (), b.attached queue)
      else .halt := by
  have hconsume := DatabaseChannel.consume_of_free hqueue.isOpen
    (mem_queuesOf.mpr hqueue.bound) hqueue.untaken
  have hfresh : Consumer.start { b.channel with taken := queue :: b.channel.taken } queue =
      .fresh queue b.channel.poller := by
    rw [Consumer.start, Consumer.fresh, DatabaseChannel.capacity, Nat.max_eq_left h.batch,
      hqueue.isOpen]
  rw [consume, hconsume]
  by_cases hfits : b.channel.poller.batchSize ≤ DatabaseChannel.maxCapacity
  · rw [if_pos (DatabaseChannel.makesStreams_iff.mpr hfits), if_pos hfits, attached, ← hfresh]
    rfl
  · rw [if_neg (mt DatabaseChannel.makesStreams_iff.mp hfits), if_neg hfits]
    rfl

end DatabaseBus

/-! ### Both -/

/-- **Accepted settings run within the limits**, and halt beyond them.  A scheduler runs if the
clock can show its first deadline; a variable can ask for every positive number of seconds with 64
bits, and none is refused.  A consumer of a free queue comes if its stream has room for a batch. -/
theorem accepted_settings_run_in_limits {c : SchedulerConfig} (hc : c.validate = .ok ())
    (clock : Nat) {b : DatabaseBus} (hb : b.channel.poller.validate = .ok ()) {queue : String}
    (hqueue : b.IsFree queue) :
    ((c.Runs clock ↔ c.IsInReach clock) ∧ (c.Halts clock ↔ ¬ c.IsInReach clock) ∧
      ∀ seconds, 0 < seconds → seconds < bound64 →
        ∃ c', c.applyEnv (.ofInterval seconds) = .ok c' ∧ c'.validate = .ok () ∧
          (c'.Runs clock ↔ clock / 1000000000 + seconds < Timer.clockBound)) ∧
    b.consume queue =
      if b.channel.poller.batchSize ≤ DatabaseChannel.maxCapacity then
        .done (.ok (), b.attached queue)
      else .halt := by
  refine ⟨⟨SchedulerConfig.runs_iff, SchedulerConfig.halts_iff, ?_⟩,
    DatabaseBus.consume_of_isFree hqueue (PollerConfig.validate_eq_ok.mp hb)⟩
  intro seconds hpositive hbound
  have hvalid := SchedulerConfig.validate_withInterval hc
    (Nat.mul_pos hpositive (by decide : 0 < 1000000000))
  exact ⟨_, c.applyEnv_ofInterval hbound, hvalid, SchedulerConfig.runs_iff_of_seconds hpositive rfl⟩

/-- A bus with a queue for all messages, whose consumer takes batches of the given size. -/
def busOfBatch (batchSize : Nat) : DatabaseBus :=
  .ofConfig { poller := { batchSize := batchSize } }

theorem isFree_busOfBatch (batchSize : Nat) : (busOfBatch batchSize).IsFree "notifications" where
  isOpen := rfl
  bound := ⟨⟨"notifications", "#"⟩, List.mem_singleton_self _, rfl⟩
  untaken := List.not_mem_nil

/-- A deadline an hour before the end of the clock, and the largest batch that a stream has room
for. -/
theorem greatest_settings_run :
    SchedulerConfig.validate {} = .ok () ∧
      (∃ c', SchedulerConfig.applyEnv {} (.ofInterval 9223372036854772202) = .ok c' ∧
        c'.validate = .ok () ∧ c'.Runs 5999999999) ∧
      (busOfBatch 2305843009213693951).channel.poller.validate = .ok () ∧
      (busOfBatch 2305843009213693951).IsFree "notifications" ∧
      (busOfBatch 2305843009213693951).consume "notifications" =
        .done (.ok (), (busOfBatch 2305843009213693951).attached "notifications") := by
  have hscheduler : SchedulerConfig.validate {} = .ok () := by decide
  have hpoller : (busOfBatch 2305843009213693951).channel.poller.validate = .ok () := by
    decide +kernel
  have hqueue := isFree_busOfBatch 2305843009213693951
  obtain ⟨⟨_, _, hseconds⟩, hconsume⟩ :=
    accepted_settings_run_in_limits hscheduler 5999999999 hpoller hqueue
  obtain ⟨c', hc', hvalid, hruns⟩ := hseconds 9223372036854772202 (by decide) (by decide)
  exact ⟨hscheduler, ⟨c', hc', hvalid, hruns.mpr (by decide)⟩, hpoller, hqueue,
    hconsume.trans (if_pos (by decide))⟩

/-- The longest interval that a variable can ask for. -/
def longestInterval : SchedulerConfig where
  interval := 18446744073709551615 * 1000000000

/-- Accepted settings beyond the limits halt: an interval whose end no clock can show, and a batch
that no stream has room for. -/
theorem accepted_settings_halt :
    (SchedulerConfig.applyEnv {} ⟨[("SCHEDULER_INTERVAL_SECS", "18446744073709551615")]⟩ =
        .ok longestInterval ∧
      longestInterval.validate = .ok () ∧ ∀ clock, longestInterval.Halts clock) ∧
    Yaml.read? PollerConfig.typed "batch_size: 18446744073709551615" =
        some (busOfBatch 18446744073709551615).channel.poller ∧
      (busOfBatch 18446744073709551615).channel.poller.validate = .ok () ∧
      (busOfBatch 18446744073709551615).IsFree "notifications" ∧
      (busOfBatch 18446744073709551615).consume "notifications" = .halt := by
  have hpoller : (busOfBatch 18446744073709551615).channel.poller.validate = .ok () := by
    decide +kernel
  refine ⟨⟨by decide +kernel, by decide, fun clock => ?_⟩, by decide +kernel, hpoller,
    isFree_busOfBatch _, ?_⟩
  · have hperiod : Timer.clockBound * 1000000000 ≤ longestInterval.period := by decide
    exact SchedulerConfig.halts_of_not_isInReach
      (Nat.not_lt.mpr (Nat.le_trans hperiod (Nat.le_add_left _ _)))
  · have hvalid := PollerConfig.validate_eq_ok.mp hpoller
    rw [DatabaseBus.consume_of_isFree (isFree_busOfBatch _) hvalid, if_neg (by decide)]

end Reminders
