import Reminders.Proofs.Bus.Order
import Reminders.Proofs.Database.Transcript

/-!
# Bus — the pace of a poller

A poller is polled, told that a poll failed, left to wait and told to shut down, in any order.  The
database answers each poll as it likes.

The interval lies between its bounds at all times.  The multiplier plays no part in this: it may be
infinite, negative or not a number.  Where a product is no interval, the greatest one stands for it,
and what is left is cut at the bounds.

* `nextInterval_isWithin`: the interval that follows another one.
* `takes_absorb`: what a poll makes of the reply.
* `keepsPace_of_step`: what each thing that may be done does to the interval.
* `isWithin_of_run`: the interval at any time.
* `pollers_keep_pace`: both together, for every run.
-/

namespace Reminders

open Database

/-! ### Intervals -/

namespace PollerConfig

/-- The interval lies between the bounds. -/
structure IsWithin (c : PollerConfig) (interval : Nat) : Prop where
  lower : c.minInterval ≤ interval
  upper : interval ≤ c.maxInterval

variable {c : PollerConfig}

theorem minInterval_isWithin (h : c.minInterval ≤ c.maxInterval) : c.IsWithin c.minInterval :=
  ⟨Nat.le_refl _, h⟩

theorem nextInterval_isWithin (h : c.minInterval ≤ c.maxInterval) (current : Nat) :
    c.IsWithin (c.nextInterval current) :=
  ⟨Nat.le_min.mpr ⟨Nat.le_max_right _ _, h⟩, Nat.min_le_right _ _⟩

end PollerConfig

/-! ### One poll -/

namespace Poller

variable {p p' : Poller} {reply : Reply} {result : Except String (List Bytes)}

/-- A poll with this reply returns the result and leaves the poller so. -/
inductive Takes (p : Poller) (reply : Reply) : Except String (List Bytes) → Poller → Prop where
  /-- A fault is reported. -/
  | fault (detail : String) (h : Consumer.Fails reply) : Takes p reply (.error detail) p
  /-- The queue is idle. -/
  | nothing (hok : reply.Succeeds) (h : reply.found = []) : Takes p reply (.ok []) p.backOff
  /-- The messages in the rows are returned. -/
  | found {messages : List (Int × Bytes)} {bodies : List Bytes}
      (h : reply.found = messages.map Consumer.rowOf) (hsome : messages ≠ [])
      (hsame : bodies.Perm (messages.map Prod.snd)) : Takes p reply (.ok bodies) p.reset

/-- Every reply is taken in one of these ways. -/
theorem takes_absorb (p : Poller) (reply : Reply) :
    p.Takes reply (p.absorb reply).1 (p.absorb reply).2 := by
  by_cases hfails : Consumer.Fails reply
  · obtain ⟨detail, hread⟩ := hfails.messagesOf_eq
    rw [absorb, hread]
    exact .fault detail hfails
  · have hok : reply.Succeeds := fun code hcode => hfails (hcode ▸ .failure code)
    obtain ⟨messages, hfound⟩ :
        ∃ messages : List (Int × Bytes), reply.found = messages.map Consumer.rowOf := by
      by_contra hnone
      exact hfails (.unreadable fun messages h => hnone ⟨messages, h⟩)
    have hread := Consumer.messagesOf_eq_sorted hok hfound
    have hsame := (messages.mergeSort_perm fun a b => decide (a.1 ≤ b.1)).map Prod.snd
    rw [absorb, hread]
    cases hbodies : (messages.mergeSort fun a b => decide (a.1 ≤ b.1)).map Prod.snd with
    | nil =>
        rw [hbodies] at hsame
        obtain rfl := List.map_eq_nil_iff.mp hsame.nil_eq.symm
        exact .nothing hok hfound
    | cons body bodies =>
        rw [hbodies] at hsame
        refine .found hfound ?_ hsame
        rintro rfl
        exact List.cons_ne_nil body bodies hsame.eq_nil

namespace Takes

theorem interval_of_ok (h : p.Takes reply result p') {bodies : List Bytes}
    (hok : result = .ok bodies) (hsome : bodies ≠ []) :
    p'.interval = p.config.minInterval := by
  cases h with
  | fault => cases hok
  | nothing => exact absurd (Except.ok.inj hok).symm hsome
  | found => rfl

theorem of_idle (h : p.Takes reply result p') (hok : reply.Succeeds) (hnone : reply.found = []) :
    result = .ok [] ∧ p' = p.backOff := by
  cases h with
  | fault detail hfails =>
      cases hfails with
      | failure code => exact absurd rfl (hok code)
      | unreadable h => exact absurd hnone (h [])
  | nothing => exact ⟨rfl, rfl⟩
  | found hrows hsome =>
      exact absurd (List.map_eq_nil_iff.mp (hrows.symm.trans hnone)) hsome

theorem of_error (h : p.Takes reply result p') {detail : String} (herror : result = .error detail) :
    p' = p := by
  cases h with
  | fault => rfl
  | nothing | found => cases herror

/-- A poll leaves the interval, lets it move on or takes it back. -/
theorem poller_eq (h : p.Takes reply result p') : p' = p ∨ p' = p.backOff ∨ p' = p.reset := by
  cases h with
  | fault => exact .inl rfl
  | nothing => exact .inr (.inl rfl)
  | found => exact .inr (.inr rfl)

end Takes

/-- A poll asks once and makes of the reply what there is to be made, or, after the shutdown, does
nothing. -/
theorem says_poll_iff {isShutdown : Bool} {talk : Transcript}
    {end? : Option (Except String (List Bytes) × Poller)} :
    (p.poll isShutdown).Says talk end? ↔
      isShutdown = true ∧ talk = [] ∧ end? = some (.ok [], p) ∨
        isShutdown = false ∧ ∃ reply, talk = [⟨p.claim, reply⟩] ∧ end? = some (p.absorb reply) := by
  cases isShutdown with
  | true =>
      constructor
      · rintro ⟨⟩
        exact .inl ⟨rfl, rfl, rfl⟩
      · rintro (⟨_, rfl, rfl⟩ | ⟨hopen, _⟩)
        · exact .done _
        · cases hopen
  | false =>
      constructor
      · rintro (_ | ⟨reply, ⟨⟩⟩)
        exact .inr ⟨rfl, reply, rfl, rfl⟩
      · rintro (⟨hshut, _⟩ | ⟨_, reply, rfl, rfl⟩)
        · cases hshut
        · exact .ask reply (.done _)

theorem wait_snd (p : Poller) (isShutdown : Bool) : (p.wait isShutdown).2 = isShutdown := by
  cases isShutdown <;> rfl

end Poller

/-! ### Polls, waits and the shutdown in any order -/

/-- What is done with a poller, and what comes of it. -/
inductive PollerEvent where
  /-- It polls: what it says to the database and hears from it, and what it returns. -/
  | poll (talk : Transcript) (result : Except String (List Bytes))
  /-- It is told that a poll failed. -/
  | fail
  /-- It waits for its interval, and returns whether the shutdown was signalled. -/
  | wait (isEnded : Bool)
  /-- The shutdown is signalled. -/
  | shutdown

/-- A poller, and whether the shutdown was signalled. -/
structure PollerRun where
  poller : Poller
  isShutdown : Bool
deriving DecidableEq

namespace PollerRun

variable {config : PollerConfig} {queue : String} {isShutdown : Bool} {r r' : PollerRun}
  {event : PollerEvent} {events : List PollerEvent}

/-- A new poller of a queue. -/
def start (queue : String) (config : PollerConfig) (isShutdown : Bool) : PollerRun :=
  ⟨.start queue config, isShutdown⟩

/-- The event leads from one state to another.  A signal that comes in the middle of a poll is the
same as one that comes after it, as the poll does not look again. -/
inductive Step : PollerRun → PollerEvent → PollerRun → Prop where
  | poll {r : PollerRun} {talk : Transcript} {result : Except String (List Bytes)} {p : Poller}
      (h : (r.poller.poll r.isShutdown).Says talk (some (result, p))) :
      Step r (.poll talk result) ⟨p, r.isShutdown⟩
  | fail {r : PollerRun} : Step r .fail ⟨r.poller.backOff, r.isShutdown⟩
  | wait {r : PollerRun} : Step r (.wait (r.poller.wait r.isShutdown).2) r
  /-- The signal comes in the middle of a wait and ends it. -/
  | interrupt {r : PollerRun} (h : r.isShutdown = false) : Step r (.wait true) ⟨r.poller, true⟩
  | shutdown {r : PollerRun} : Step r .shutdown ⟨r.poller, true⟩

/-- The events lead from one state to another. -/
inductive Run : PollerRun → List PollerEvent → PollerRun → Prop where
  | refl (r : PollerRun) : Run r [] r
  | more {r r₁ r' : PollerRun} {event : PollerEvent} {events : List PollerEvent}
      (h : Step r event r₁) (t : Run r₁ events r') : Run r (event :: events) r'

/-- Every reply brings a poll to its end. -/
theorem exists_poll (r : PollerRun) (reply : Reply) :
    ∃ talk result r', Step r (.poll talk result) r' ∧ ∀ turn ∈ talk, turn.reply = reply := by
  cases hshut : r.isShutdown with
  | true =>
      have hsays := Poller.says_poll_iff (p := r.poller).mpr (.inl ⟨hshut, rfl, rfl⟩)
      exact ⟨_, _, _, .poll hsays, List.forall_mem_nil _⟩
  | false =>
      have hsays := Poller.says_poll_iff (p := r.poller).mpr (.inr ⟨hshut, reply, rfl, rfl⟩)
      exact ⟨_, _, _, .poll hsays, List.forall_mem_singleton.mpr rfl⟩

/-- Nothing but these three ever becomes of a poller. -/
theorem poller_of_step (h : Step r event r') :
    r'.poller = r.poller ∨ r'.poller = r.poller.backOff ∨ r'.poller = r.poller.reset := by
  cases h with
  | @poll talk result p hsays =>
      rcases Poller.says_poll_iff.mp hsays with ⟨_, _, hend⟩ | ⟨_, reply, _, hend⟩
      · exact .inl (congrArg Prod.snd (Option.some.inj hend))
      · have htakes := r.poller.takes_absorb reply
        rw [← Option.some.inj hend] at htakes
        exact htakes.poller_eq
  | fail => exact .inr (.inl rfl)
  | wait | interrupt | shutdown => exact .inl rfl

/-- What a poll does to a poller with this pace. -/
structure PollKeepsPace (config : PollerConfig) (r : PollerRun) (talk : Transcript)
    (result : Except String (List Bytes)) (r' : PollerRun) : Prop where
  /-- If it returned messages, the interval is back at its minimum. -/
  found : ∀ bodies, result = .ok bodies → bodies ≠ [] → r'.poller.interval = config.minInterval
  /-- If the database answered with no rows, it returned nothing, and the interval moved on. -/
  idle : ∀ turn, talk = [turn] → turn.reply.Succeeds → turn.reply.found = [] →
    result = .ok [] ∧ r'.poller.interval = config.nextInterval r.poller.interval
  /-- If it failed, nothing changed. -/
  fault : ∀ detail, result = .error detail → r' = r
  /-- Until the shutdown is signalled, it sends one statement and takes the reply. -/
  asks : r.isShutdown = false →
    ∃ reply, talk = [⟨r.poller.claim, reply⟩] ∧ r.poller.Takes reply result r'.poller
  /-- Once it was signalled, it sends nothing and changes nothing. -/
  silent : r.isShutdown = true → talk = [] ∧ result = .ok [] ∧ r' = r

/-- What an event does to a poller with this pace: the interval moves on after every failure that
the poller is told of; a wait leaves it as it is, and reports the shutdown once it was signalled. -/
def KeepsPace (config : PollerConfig) (r : PollerRun) (event : PollerEvent) (r' : PollerRun) :
    Prop :=
  match event with
  | .poll talk result => PollKeepsPace config r talk result r'
  | .fail => r'.poller.interval = config.nextInterval r.poller.interval
  | .wait isEnded => r'.poller = r.poller ∧ (r.isShutdown = true → isEnded = true)
  | .shutdown => r'.poller = r.poller

theorem pollKeepsPace_of_silent (hshut : r.isShutdown = true) :
    PollKeepsPace config r [] (.ok []) r where
  found _ heq hsome := absurd (Except.ok.inj heq).symm hsome
  idle _ heq := by cases heq
  fault _ heq := by cases heq
  asks hopen := by
    rw [hshut] at hopen
    cases hopen
  silent _ := ⟨rfl, rfl, rfl⟩

theorem pollKeepsPace_of_takes {reply : Reply} {result : Except String (List Bytes)} {p : Poller}
    (hopen : r.isShutdown = false) (h : r.poller.Takes reply result p) :
    PollKeepsPace r.poller.config r [⟨r.poller.claim, reply⟩] result ⟨p, r.isShutdown⟩ where
  found _ := h.interval_of_ok
  idle _ heq hok hnone := by
    obtain rfl := List.singleton_inj.mp heq
    obtain ⟨hresult, rfl⟩ := h.of_idle hok hnone
    exact ⟨hresult, rfl⟩
  fault _ heq := by
    obtain rfl := h.of_error heq
    rfl
  asks _ := ⟨reply, rfl, h⟩
  silent hshut := by
    rw [hopen] at hshut
    cases hshut

/-- **One event** does to a poller what its pace says. -/
theorem keepsPace_of_step (h : Step r event r') : KeepsPace r.poller.config r event r' := by
  cases h with
  | @poll talk result p hsays =>
      rcases Poller.says_poll_iff.mp hsays with ⟨hshut, rfl, hend⟩ | ⟨hopen, reply, rfl, hend⟩
      · obtain ⟨rfl, rfl⟩ := Prod.mk.inj (Option.some.inj hend)
        exact pollKeepsPace_of_silent hshut
      · have htakes := r.poller.takes_absorb reply
        rw [← Option.some.inj hend] at htakes
        exact pollKeepsPace_of_takes hopen htakes
  | fail | shutdown => exact rfl
  | wait => exact ⟨rfl, fun hshut => (r.poller.wait_snd _).trans hshut⟩
  | interrupt => exact ⟨rfl, fun _ => rfl⟩

/-! ### Any number of events -/

/-- What every event keeps holds at any time. -/
theorem Run.keeps {P : PollerRun → Prop} (hrun : Run r events r')
    (hstep : ∀ {r event r'}, Step r event r' → P r → P r') (h : P r) : P r' := by
  induction hrun with
  | refl => exact h
  | more hfirst _ ih => exact ih (hstep hfirst h)

theorem config_of_step (h : Step r event r') : r'.poller.config = r.poller.config := by
  rcases poller_of_step h with heq | heq | heq <;> rw [heq] <;> rfl

theorem isWithin_of_step (hbounds : config.minInterval ≤ config.maxInterval)
    (h : Step r event r') (hconfig : r.poller.config = config)
    (hwithin : config.IsWithin r.poller.interval) : config.IsWithin r'.poller.interval := by
  subst hconfig
  rcases poller_of_step h with heq | heq | heq <;> rw [heq]
  · exact hwithin
  · exact PollerConfig.nextInterval_isWithin hbounds _
  · exact PollerConfig.minInterval_isWithin hbounds

/-- The interval lies between its bounds at any time. -/
theorem isWithin_of_run (hbounds : config.minInterval ≤ config.maxInterval)
    (hrun : Run (start queue config isShutdown) events r) :
    r.poller.config = config ∧ config.IsWithin r.poller.interval :=
  hrun.keeps (P := fun r => r.poller.config = config ∧ config.IsWithin r.poller.interval)
    (fun hstep ⟨hconfig, hwithin⟩ => ⟨(config_of_step hstep).trans hconfig,
      isWithin_of_step hbounds hstep hconfig hwithin⟩)
    ⟨rfl, PollerConfig.minInterval_isWithin hbounds⟩

theorem isShutdown_iff_of_step (h : Step r event r') :
    r'.isShutdown = true ↔ r.isShutdown = true ∨ event = .shutdown ∨ event = .wait true := by
  cases h with
  | poll | fail => simp
  | wait => simp [Poller.wait_snd]
  | interrupt | shutdown => simp

/-- The shutdown was signalled exactly if it was so from the start, or on its own, or in the middle
of a wait. -/
theorem isShutdown_iff_of_run (hrun : Run r events r') :
    r'.isShutdown = true ↔ r.isShutdown = true ∨ .shutdown ∈ events ∨ .wait true ∈ events := by
  induction hrun with
  | refl => simp
  | more hstep _ ih =>
      rw [ih, isShutdown_iff_of_step hstep]
      simp only [List.mem_cons, eq_comm (a := PollerEvent.shutdown),
        eq_comm (a := PollerEvent.wait true)]
      tauto

/-- **Pollers keep their pace.**  Let the bounds of the interval be in order, and let the multiplier
be anything.  After any polls, failures, waits and signals, the interval lies between the bounds,
every poll comes to an end whatever the reply is, and whatever is done next keeps the pace. -/
theorem pollers_keep_pace (hbounds : config.minInterval ≤ config.maxInterval)
    (hrun : Run (start queue config isShutdown) events r) :
    (config.minInterval ≤ r.poller.interval ∧ r.poller.interval ≤ config.maxInterval) ∧
      (r.isShutdown = true ↔
        isShutdown = true ∨ .shutdown ∈ events ∨ .wait true ∈ events) ∧
      (∀ reply, ∃ talk result r',
        Step r (.poll talk result) r' ∧ ∀ turn ∈ talk, turn.reply = reply) ∧
      ∀ event r', Step r event r' → KeepsPace config r event r' := by
  obtain ⟨hconfig, hwithin⟩ := isWithin_of_run hbounds hrun
  refine ⟨⟨hwithin.lower, hwithin.upper⟩, isShutdown_iff_of_run hrun, exists_poll r,
    fun event r' hstep => ?_⟩
  rw [← hconfig]
  exact keepsPace_of_step hstep

/-- A pace whose multiplier is not a number. -/
def wildPace : PollerConfig where
  minInterval := 1000000
  maxInterval := 10000000
  multiplier := .nan

/-- A poller with the wild pace at an interval. -/
def wildPoller (interval : Nat) : Poller :=
  ⟨"notifications", wildPace, interval⟩

/-- A poll finds nothing, the next one fails, and the shutdown comes in the middle of a wait. -/
def wildEvents : List PollerEvent :=
  [.poll [⟨(wildPoller 1000000).claim, .rows []⟩] (.ok []),
    .poll [⟨(wildPoller 10000000).claim, .failure "57014"⟩] (.error (failureText "57014")),
    .fail, .wait false, .wait true]

theorem run_wildEvents :
    Run (start "notifications" wildPace false) wildEvents ⟨wildPoller 10000000, true⟩ := by
  have hidle : (wildPoller 1000000).absorb (.rows []) = (.ok [], wildPoller 10000000) := by
    decide +kernel
  have hback : (wildPoller 10000000).backOff = wildPoller 10000000 := by decide +kernel
  have hnothing : Step (start "notifications" wildPace false)
      (.poll [⟨(wildPoller 1000000).claim, .rows []⟩] (.ok [])) ⟨wildPoller 10000000, false⟩ :=
    .poll (Poller.says_poll_iff.mpr (.inr ⟨rfl, _, rfl, congrArg some hidle.symm⟩))
  have hfault : Step ⟨wildPoller 10000000, false⟩
      (.poll [⟨(wildPoller 10000000).claim, .failure "57014"⟩] (.error (failureText "57014")))
      ⟨wildPoller 10000000, false⟩ :=
    .poll (Poller.says_poll_iff.mpr (.inr ⟨rfl, _, rfl, rfl⟩))
  have hfail : Step ⟨wildPoller 10000000, false⟩ .fail ⟨(wildPoller 10000000).backOff, false⟩ :=
    .fail
  rw [hback] at hfail
  exact .more hnothing (.more hfault (.more hfail (.more .wait (.more (.interrupt rfl) (.refl _)))))

/-- The interval is at its maximum then, and a poll sends nothing any more. -/
theorem wildPoller_keeps_pace :
    wildPace.minInterval ≤ wildPace.maxInterval ∧
      Run (start "notifications" wildPace false) wildEvents ⟨wildPoller 10000000, true⟩ ∧
      (wildPoller 10000000).interval ≤ wildPace.maxInterval ∧
      ∀ talk result r', Step ⟨wildPoller 10000000, true⟩ (.poll talk result) r' →
        talk = [] ∧ result = .ok [] ∧ r' = ⟨wildPoller 10000000, true⟩ := by
  have hbounds : wildPace.minInterval ≤ wildPace.maxInterval := by decide
  obtain ⟨⟨_, hupper⟩, hshutdown, _, hkeeps⟩ := pollers_keep_pace hbounds run_wildEvents
  refine ⟨hbounds, run_wildEvents, hupper, fun talk result r' hstep => ?_⟩
  have hpoll : PollKeepsPace wildPace ⟨wildPoller 10000000, true⟩ talk result r' :=
    hkeeps _ r' hstep
  exact hpoll.silent (hshutdown.mpr (.inr (.inr (by simp [wildEvents]))))

end PollerRun

end Reminders
