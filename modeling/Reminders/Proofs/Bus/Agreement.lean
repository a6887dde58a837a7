import Reminders.Proofs.Bus.Mail
import Reminders.Proofs.Bus.Reading
import Reminders.Proofs.Monad

/-!
# Bus — the two channels agree

A channel in memory and a channel in a database that acknowledges every statement get the same calls
one after another.  They *match* if both are open or both are closed, a queue in memory is attended
exactly if its consumer came to the database, and the table has for each queue the messages that the
queue in memory holds.  Matching channels answer a call in the same way, and match again.

The one exception is a consumer for whom the runtime cannot make a stream: it comes to the queue in
memory, but in a database its call does not return.

* `Matches`: what relates the two channels and the table.
* `Simulates`: one call on both sides; `perform_simulates` is the step of the simulation, and
  `perform_halts` the exception.
* `channels_agree`: any calls on two new channels; `endless_batch_divides`: the exception.
-/

namespace Reminders

open Database

/-! ### Calls -/

/-- A call of a channel. -/
inductive ChannelCall where
  | publish (key : String) (body : Bytes)
  | consume (queue : String)
  | close
deriving DecidableEq

namespace ChannelCall

variable {m : Type → Type}

/-- Makes a call. -/
def perform (channel : NotificationChannel m) : ChannelCall → m (Except ChannelError Unit)
  | .publish key body => channel.publish key body
  | .consume queue => channel.consume queue
  | .close => channel.close

/-- Makes some calls in turn. -/
def performAll [Monad m] (channel : NotificationChannel m) :
    List ChannelCall → m (List (Except ChannelError Unit))
  | [] => pure []
  | call :: calls => do
    let result ← call.perform channel
    let results ← performAll channel calls
    return result :: results

/-- The call with its answer. -/
def answered : ChannelCall → Except ChannelError Unit → ChannelEvent
  | .publish key body, result => .publish key body result
  | .consume queue, result => .consume queue result
  | .close, _ => .close

end ChannelCall

/-- The runtime can make the streams of the consumers: it makes none for more than `maxCapacity`
messages. -/
def DatabaseChannel.MakesStreams (d : DatabaseChannel) : Prop :=
  d.capacity ≤ DatabaseChannel.maxCapacity

instance (d : DatabaseChannel) : Decidable d.MakesStreams :=
  inferInstanceAs (Decidable (_ ≤ _))

/-- A stream has room for a batch, and for one message if a batch is empty. -/
theorem DatabaseChannel.makesStreams_iff {d : DatabaseChannel} :
    d.MakesStreams ↔ d.poller.batchSize ≤ maxCapacity :=
  Nat.max_le.trans (and_iff_left (by decide))

/-- The consumer of a free queue takes it, and its task goes on if its stream can be made. -/
theorem DatabaseChannel.consume_of_free {d : DatabaseChannel} {queue : String}
    (hopen : d.isClosed = false) (hbound : queue ∈ queuesOf d.bindings)
    (hfree : queue ∉ d.taken) :
    d.consume queue =
      (if d.MakesStreams then .done (.ok ()) else .halt,
        { d with taken := queue :: d.taken }) := by
  have hany : (!d.bindings.any fun b => b.queue == queue) = false := by
    simpa [mem_queuesOf] using hbound
  have hcontains : d.taken.contains queue = false :=
    Bool.eq_false_iff.mpr (mt List.contains_iff_mem.mp hfree)
  rw [consume, if_neg (Bool.eq_false_iff.mp hopen), if_neg (Bool.eq_false_iff.mp hany),
    if_neg (Bool.eq_false_iff.mp hcontains)]
  by_cases hstreams : d.MakesStreams
  · rw [if_pos hstreams, if_neg (Nat.not_lt.mpr hstreams)]
  · rw [if_neg hstreams, if_pos (Nat.lt_of_not_le hstreams)]

/-- The runtime can make the streams of all consumers that come. -/
def DatabaseChannel.HasRoomFor (d : DatabaseChannel) (events : List ChannelEvent) : Prop :=
  ∀ queue, .consume queue (.ok ()) ∈ events → d.MakesStreams

theorem DatabaseChannel.hasRoomFor_cons {d : DatabaseChannel} {event : ChannelEvent}
    {events : List ChannelEvent} :
    d.HasRoomFor (event :: events) ↔ d.HasRoomFor [event] ∧ d.HasRoomFor events := by
  constructor
  · intro h
    exact ⟨fun queue hqueue => h queue (List.mem_cons.mpr (.inl (List.mem_singleton.mp hqueue))),
      fun queue hqueue => h queue (List.mem_cons_of_mem _ hqueue)⟩
  · rintro ⟨hfirst, hrest⟩ queue hqueue
    rcases List.mem_cons.mp hqueue with hqueue | hqueue
    · exact hfirst queue (List.mem_singleton.mpr hqueue)
    · exact hrest queue hqueue

theorem DatabaseChannel.hasRoomFor_singleton {d : DatabaseChannel} {event : ChannelEvent} :
    d.HasRoomFor [event] ↔ ∀ queue, .consume queue (.ok ()) = event → d.MakesStreams :=
  forall_congr' fun _ => imp_congr_left List.mem_singleton

theorem DatabaseChannel.hasRoomFor_consume {d : DatabaseChannel} {queue : String}
    {result : Except ChannelError Unit} :
    d.HasRoomFor [.consume queue result] ↔ (result = .ok () → d.MakesStreams) := by
  rw [hasRoomFor_singleton]
  constructor
  · rintro h rfl
    exact h queue rfl
  · intro h queue' hevent
    exact h (ChannelEvent.consume.inj hevent).2.symm

/-- The channel has the settings of another one. -/
structure DatabaseChannel.HasSettingsOf (d' d : DatabaseChannel) : Prop where
  exchange : d'.exchange = d.exchange
  bindings : d'.bindings = d.bindings
  poller : d'.poller = d.poller

namespace DatabaseChannel.HasSettingsOf

variable {d d' d'' : DatabaseChannel}

theorem refl (d : DatabaseChannel) : d.HasSettingsOf d :=
  ⟨rfl, rfl, rfl⟩

theorem trans (h : d''.HasSettingsOf d') (h' : d'.HasSettingsOf d) : d''.HasSettingsOf d :=
  ⟨h.exchange.trans h'.exchange, h.bindings.trans h'.bindings, h.poller.trans h'.poller⟩

theorem makesStreams (h : d'.HasSettingsOf d) : d'.MakesStreams ↔ d.MakesStreams := by
  rw [MakesStreams, capacity, h.poller]
  rfl

theorem hasRoomFor (h : d'.HasSettingsOf d) {events : List ChannelEvent} :
    d'.HasRoomFor events ↔ d.HasRoomFor events :=
  forall_congr' fun _ => imp_congr_right fun _ => h.makesStreams

end DatabaseChannel.HasSettingsOf

namespace MemoryChannel

open DatabaseChannel Mail

/-- The messages that wait for the consumer of a queue. -/
def waiting (c : MemoryChannel) (queue : String) : List Bytes :=
  (c.queues[queue]?.map MemoryQueue.pending).getD []

/-- The channel in memory stands where the channel in the database stands with the stored rows. -/
structure Matches (c : MemoryChannel) (d : DatabaseChannel) (stored : List MessageRow) :
    Prop where
  bindings : c.bindings = d.bindings
  isClosed : c.isClosed = d.isClosed
  /-- Each bound queue holds the messages of its rows, and other queues are unknown. -/
  queues : ∀ queue, c.queues[queue]? =
    if queue ∈ queuesOf d.bindings then
      some ⟨bodies stored queue, if queue ∈ d.taken then .attached else .free⟩
    else none
  /-- All rows are of the exchange and of bound queues. -/
  rows : ∀ row ∈ stored, row.exchange = d.exchange ∧ row.queue ∈ queuesOf d.bindings

variable {σ : Type} {peer : Statement → StateM σ Reply} {c : MemoryChannel} {d : DatabaseChannel}
  {stored : List MessageRow} {exchange key queue : String} {body : Bytes} {x : σ}

/-! ### Rows of a queue -/

theorem mem_queuesOf_of_mem_route {bindings : List Binding} (h : queue ∈ route bindings key) :
    queue ∈ queuesOf bindings := by
  obtain ⟨b, hb, _, hqueue⟩ := mem_route.mp h
  exact mem_queuesOf.mpr ⟨b, hb, hqueue⟩

theorem bodies_append (rows rows' : List MessageRow) (queue : String) :
    bodies (rows ++ rows') queue = bodies rows queue ++ bodies rows' queue := by
  simp only [bodies, List.filter_append, List.map_append]

/-- A message has one row for each of the queues. -/
theorem bodies_copies {queues : List String} (h : queues.Nodup) :
    bodies (MessageRow.copies exchange key body queues) queue =
      if queue ∈ queues then [body] else [] := by
  induction queues with
  | nil => rfl
  | cons name names ih =>
      obtain ⟨hname, hnames⟩ := List.nodup_cons.mp h
      have hcons : bodies (MessageRow.copies exchange key body (name :: names)) queue =
          (if name = queue then [body] else []) ++
            bodies (MessageRow.copies exchange key body names) queue := by
        by_cases heq : name = queue <;> simp [bodies, MessageRow.copies, heq]
      rw [hcons, ih hnames]
      by_cases heq : name = queue
      · subst heq
        simp [hname]
      · simp [heq, Ne.symm heq]

/-- The rows of a message are those of the queues that it is accepted for. -/
theorem bodies_copies_route (exchange key : String) (body : Bytes) (bindings : List Binding)
    (queue : String) :
    bodies (MessageRow.copies exchange key body (route bindings key)) queue =
      (accepted? bindings queue (.publish key body (.ok ()))).toList := by
  rw [bodies_copies (nodup_route bindings key)]
  simp only [mem_route_iff_takes, accepted?]
  split <;> rfl

/-! ### Changes on both sides -/

namespace Matches

/-- A message reaches the same queues on both sides. -/
theorem publish (h : Matches c d stored) (hopen : c.isClosed = false) (key : String)
    (body : Bytes) :
    Matches (c.publish key body).2 d
      (stored ++ MessageRow.copies d.exchange key body (route d.bindings key)) where
  bindings := by
    rw [publish_of_isOpen hopen]
    exact h.bindings
  isClosed := by
    rw [publish_of_isOpen hopen]
    exact h.isClosed
  queues queue := by
    rw [getElem?_publish hopen, h.bindings, h.queues, bodies_append,
      bodies_copies (nodup_route d.bindings key)]
    by_cases hrouted : queue ∈ route d.bindings key
    · have hbound : queue ∈ queuesOf d.bindings := mem_queuesOf_of_mem_route hrouted
      rw [if_pos hrouted, if_pos hbound, if_pos hbound, if_pos hrouted, Option.map_some, deliver,
        if_neg]
      split <;> exact Attachment.noConfusion
    · rw [if_neg hrouted, if_neg hrouted, List.append_nil]
  rows row hrow := by
    rcases List.mem_append.mp hrow with hrow | hrow
    · exact h.rows row hrow
    · obtain ⟨queue, hqueue, rfl⟩ := List.mem_map.mp hrow
      exact ⟨rfl, mem_queuesOf_of_mem_route hqueue⟩

/-- A consumer comes on both sides. -/
theorem attach (h : Matches c d stored) (hbound : queue ∈ queuesOf d.bindings) :
    Matches { c with queues := c.queues.insert queue ⟨bodies stored queue, .attached⟩ }
      { d with taken := queue :: d.taken } stored where
  bindings := h.bindings
  isClosed := h.isClosed
  queues queue' := by
    simp only [Std.ExtTreeMap.getElem?_insert, Std.LawfulEqCmp.compare_eq_iff_eq, h.queues,
      List.mem_cons]
    by_cases heq : queue = queue'
    · subst heq
      simp [hbound]
    · simp [heq, Ne.symm heq]
  rows := h.rows

/-- A consumer that comes to the queue in memory finds the queue free on both sides. -/
theorem free_of_consume {c' : MemoryChannel} (h : Matches c d stored)
    (hconsume : c.consume queue = (.ok (), c')) :
    d.isClosed = false ∧ queue ∈ queuesOf d.bindings ∧ queue ∉ d.taken ∧
      c' = { c with queues := c.queues.insert queue ⟨bodies stored queue, .attached⟩ } := by
  rcases consume_cases hconsume with ⟨_, hresult, _⟩ | ⟨_, _, hresult, _⟩ |
    ⟨hopen, ⟨_, hqueue, rfl⟩, _⟩ | ⟨_, _, hresult, _⟩
  · cases hresult
  · cases hresult
  · rw [h.queues, Option.ite_none_right_eq_some] at hqueue
    obtain ⟨hbound, hqueue⟩ := hqueue
    obtain ⟨rfl, hfree⟩ := MemoryQueue.mk.inj (Option.some.inj hqueue)
    refine ⟨h.isClosed ▸ hopen, hbound, fun htaken => ?_, rfl⟩
    rw [if_pos htaken] at hfree
    cases hfree
  · cases hresult

theorem close (h : Matches c d stored) : Matches c.close.2 d.close.2 stored where
  bindings := h.bindings
  isClosed := rfl
  queues := h.queues
  rows := h.rows

end Matches

/-! ### One call -/

/-- Both channels answer a call in the same way and match again, and the table gets the messages
that the call makes the channels accept. -/
def Simulates (peer : Statement → StateM σ Reply) (c : MemoryChannel) (d : DatabaseChannel)
    (stored : List MessageRow) (call : ChannelCall) (x : σ) : Prop :=
  ∃ result c' d' stored' y,
    call.perform MemoryChannel.channel c = (result, c') ∧
    (call.perform DatabaseChannel.channel d).run (keptBeside peer) (resting stored, x) =
      (some (result, d'), (resting stored', y)) ∧
    Matches c' d' stored' ∧ d'.HasSettingsOf d ∧
    ∀ queue, bodies stored' queue =
      bodies stored queue ++ (accepted? d.bindings queue (call.answered result)).toList

theorem publish_simulates (h : Matches c d stored) (hpeer : Acknowledges peer) (key : String)
    (body : Bytes) (x : σ) : Simulates peer c d stored (.publish key body) x := by
  cases hclosed : d.isClosed with
  | true =>
      have hrun : (d.publish key body).run (keptBeside peer) (resting stored, x) =
          (some (.error .closed), (resting stored, x)) := by
        rw [DatabaseChannel.publish, if_pos hclosed]
        rfl
      refine ⟨.error .closed, c, d, stored, x, ?_, ?_, h, .refl d, fun queue => ?_⟩
      · exact publish_of_isClosed (h.isClosed.trans hclosed) key body
      · refine (Dialogue.run_map _ _ (d.publish key body) _).trans ?_
        rw [hrun]
        rfl
      · exact (List.append_nil _).symm
  | false =>
      obtain ⟨y, hrun⟩ := run_publish hpeer hclosed key body stored x
      have hopen : c.isClosed = false := h.isClosed.trans hclosed
      have hmemory : c.publish key body = (.ok (), (c.publish key body).2) := by
        rw [publish_of_isOpen hopen]
      refine ⟨.ok (), _, d, _, y, hmemory, ?_, h.publish hopen key body, .refl d,
        fun queue => ?_⟩
      · refine (Dialogue.run_map _ _ (d.publish key body) _).trans ?_
        rw [hrun]
        rfl
      · rw [bodies_append, bodies_copies_route]
        rfl

/-- An attempt to attach a consumer that changes no row. -/
theorem consume_simulates_of_eq {result : Except ChannelError Unit} {c' : MemoryChannel}
    {d' : DatabaseChannel} (h : Matches c' d' stored) (hc : c.consume queue = (result, c'))
    (hd : d.consume queue = (.done result, d')) (hsettings : d'.HasSettingsOf d) :
    Simulates peer c d stored (.consume queue) x := by
  refine ⟨result, c', d', stored, x, hc, ?_, h, hsettings, fun queue => ?_⟩
  · simp only [ChannelCall.perform, DatabaseChannel.channel, hd]
    rfl
  · exact (List.append_nil _).symm

/-- A consumer is refused for the same reason, with the same precedence among the reasons. -/
theorem consume_simulates (h : Matches c d stored) (queue : String)
    (hroom : d.HasRoomFor [.consume queue (c.consume queue).1]) (x : σ) :
    Simulates peer c d stored (.consume queue) x := by
  have hany : (d.bindings.any fun b => b.queue == queue) = true ↔ queue ∈ queuesOf d.bindings := by
    simp [mem_queuesOf]
  -- What the channel in memory finds decides which test of the other channel fails first.
  rcases hconsume : c.consume queue with ⟨result, c'⟩
  rcases consume_cases hconsume with ⟨hclosed, rfl, rfl⟩ | ⟨hopen, hnone, rfl, rfl⟩ |
    ⟨_, _, rfl⟩ | ⟨hopen, ⟨q, hqueue, hbusy⟩, rfl, rfl⟩
  · refine consume_simulates_of_eq h hconsume ?_ (.refl d)
    rw [DatabaseChannel.consume, if_pos (h.isClosed.symm.trans hclosed)]
  · have hunbound : queue ∉ queuesOf d.bindings := by
      intro hbound
      rw [h.queues, if_pos hbound] at hnone
      cases hnone
    refine consume_simulates_of_eq h hconsume ?_ (.refl d)
    rw [DatabaseChannel.consume, ← h.isClosed, if_neg (Bool.eq_false_iff.mp hopen), if_pos]
    rw [Bool.eq_false_iff.mpr (mt hany.mp hunbound)]
    rfl
  · obtain ⟨hopen, hbound, huntaken, rfl⟩ := h.free_of_consume hconsume
    have hstreams : d.MakesStreams :=
      DatabaseChannel.hasRoomFor_consume.mp hroom (congrArg Prod.fst hconsume)
    refine consume_simulates_of_eq (h.attach hbound) hconsume ?_ ⟨rfl, rfl, rfl⟩
    rw [DatabaseChannel.consume_of_free hopen hbound huntaken, if_pos hstreams]
  · rw [h.queues, Option.ite_none_right_eq_some] at hqueue
    obtain ⟨hbound, hqueue⟩ := hqueue
    obtain rfl := Option.some.inj hqueue
    have htaken : queue ∈ d.taken :=
      Decidable.byContradiction fun huntaken => hbusy (if_neg huntaken)
    refine consume_simulates_of_eq h hconsume ?_ (.refl d)
    rw [DatabaseChannel.consume, ← h.isClosed, if_neg (Bool.eq_false_iff.mp hopen), if_neg, if_pos]
    · rwa [List.contains_iff_mem]
    · rw [hany.mpr hbound]
      decide

/-- Both channels answer each call in the same way, if there is room for the consumer that may
come. -/
theorem perform_simulates (h : Matches c d stored) (hpeer : Acknowledges peer) (call : ChannelCall)
    (hroom : d.HasRoomFor [call.answered (call.perform MemoryChannel.channel c).1]) (x : σ) :
    Simulates peer c d stored call x := by
  cases call with
  | publish key body => exact publish_simulates h hpeer key body x
  | consume queue => exact consume_simulates h queue hroom x
  | close =>
      exact ⟨.ok (), c.close.2, d.close.2, stored, x, rfl, rfl, h.close, ⟨rfl, rfl, rfl⟩,
        fun queue => (List.append_nil _).symm⟩

/-- A consumer that comes in memory, but has no room in the database, halts there. -/
theorem perform_halts (h : Matches c d stored) (call : ChannelCall)
    (hroom : ¬ d.HasRoomFor [call.answered (call.perform MemoryChannel.channel c).1])
    {τ : Type} (peer : Statement → StateM τ Reply) (y : τ) :
    (call.perform DatabaseChannel.channel d).run peer y = (none, y) := by
  cases call with
  | publish key body =>
      exact absurd (DatabaseChannel.hasRoomFor_singleton.mpr fun _ h => by cases h) hroom
  | consume queue =>
      have hconsumer : ¬ ((c.consume queue).1 = .ok () → d.MakesStreams) :=
        mt DatabaseChannel.hasRoomFor_consume.mpr hroom
      obtain ⟨hok, hstreams⟩ := Classical.not_imp.mp hconsumer
      obtain ⟨hopen, hbound, huntaken, _⟩ := h.free_of_consume (Prod.ext hok rfl)
      have hhalt := DatabaseChannel.consume_of_free hopen hbound huntaken
      rw [if_neg hstreams] at hhalt
      simp only [ChannelCall.perform, DatabaseChannel.channel, hhalt]
      rfl
  | close => exact absurd (DatabaseChannel.hasRoomFor_singleton.mpr fun _ h => by cases h) hroom

/-! ### Calls in turn -/

/-- The calls with their answers. -/
def answeredAll (calls : List ChannelCall) (results : List (Except ChannelError Unit)) :
    List ChannelEvent :=
  List.zipWith ChannelCall.answered calls results

theorem performAll_memory_cons (call : ChannelCall) (calls : List ChannelCall) (c : MemoryChannel) :
    ChannelCall.performAll MemoryChannel.channel (call :: calls) c =
      let p := call.perform MemoryChannel.channel c
      let q := ChannelCall.performAll MemoryChannel.channel calls p.2
      (p.1 :: q.1, q.2) :=
  rfl

theorem performAll_database_cons (call : ChannelCall) (calls : List ChannelCall)
    (d : DatabaseChannel) :
    ChannelCall.performAll DatabaseChannel.channel (call :: calls) d =
      call.perform DatabaseChannel.channel d >>= fun p =>
        ChannelCall.performAll DatabaseChannel.channel calls p.2 >>= fun q =>
          pure (p.1 :: q.1, q.2) :=
  rfl

/-- What the channel in memory answers to some calls. -/
def answers (c : MemoryChannel) (calls : List ChannelCall) : List ChannelEvent :=
  answeredAll calls (ChannelCall.performAll MemoryChannel.channel calls c).1

theorem answers_cons (c : MemoryChannel) (call : ChannelCall) (calls : List ChannelCall) :
    c.answers (call :: calls) = call.answered (call.perform MemoryChannel.channel c).1 ::
      (call.perform MemoryChannel.channel c).2.answers calls :=
  rfl

/-- Matching channels answer all calls in the same way, if there is room for all consumers that
come, and match again. -/
theorem performAll_simulates (h : Matches c d stored) (hpeer : Acknowledges peer)
    (calls : List ChannelCall) (hroom : d.HasRoomFor (c.answers calls)) (x : σ) :
    ∃ results c' d' stored' y,
      ChannelCall.performAll MemoryChannel.channel calls c = (results, c') ∧
      (ChannelCall.performAll DatabaseChannel.channel calls d).run (keptBeside peer)
        (resting stored, x) = (some (results, d'), (resting stored', y)) ∧
      results.length = calls.length ∧ Matches c' d' stored' ∧ d'.HasSettingsOf d ∧
      ∀ queue, bodies stored' queue = bodies stored queue ++
        accepted d.bindings queue (answeredAll calls results) := by
  -- By induction on the calls; the settings of the database's channel stay what they were.
  induction calls generalizing c d stored x with
  | nil => exact ⟨[], c, d, stored, x, rfl, rfl, rfl, h, .refl d, fun _ => (List.append_nil _).symm⟩
  | cons call calls ih =>
      rw [answers_cons, DatabaseChannel.hasRoomFor_cons] at hroom
      obtain ⟨result, c₁, d₁, stored₁, x₁, hmemory, hdatabase, h₁, hsettings, hrows⟩ :=
        perform_simulates h hpeer call hroom.1 x
      rw [hmemory] at hroom
      obtain ⟨results, c', d', stored', y, hmemory', hdatabase', hlength, h', hsettings', hrows'⟩ :=
        ih h₁ (hsettings.hasRoomFor.mpr hroom.2) x₁
      refine ⟨result :: results, c', d', stored', y, ?_, ?_, congrArg (· + 1) hlength, h',
        hsettings'.trans hsettings, fun queue => ?_⟩
      · simp only [performAll_memory_cons, hmemory, hmemory']
      · rw [performAll_database_cons, Dialogue.run_bind_of_some hdatabase,
          Dialogue.run_bind_of_some hdatabase']
        rfl
      · rw [hrows', hrows, hsettings.bindings, List.append_assoc, ← accepted_cons]
        rfl

/-- Without that room, the calls on the database's channel do not return. -/
theorem performAll_halts (h : Matches c d stored) (hpeer : Acknowledges peer)
    (calls : List ChannelCall) (hroom : ¬ d.HasRoomFor (c.answers calls)) (x : σ) :
    ((ChannelCall.performAll DatabaseChannel.channel calls d).run (keptBeside peer)
      (resting stored, x)).1 = none := by
  -- By induction on the calls, up to the first consumer that has no room.
  induction calls generalizing c d stored x with
  | nil => exact absurd nofun hroom
  | cons call calls ih =>
      rw [answers_cons, DatabaseChannel.hasRoomFor_cons] at hroom
      rw [performAll_database_cons]
      by_cases hfirst : d.HasRoomFor [call.answered (call.perform MemoryChannel.channel c).1]
      · obtain ⟨result, c₁, d₁, stored₁, x₁, hmemory, hdatabase, h₁, hsettings, _⟩ :=
          perform_simulates h hpeer call hfirst x
        have hrest : ¬ d₁.HasRoomFor (c₁.answers calls) := by
          rw [hsettings.hasRoomFor]
          rw [hmemory] at hfirst hroom
          exact fun hrest => hroom ⟨hfirst, hrest⟩
        rw [Dialogue.run_bind_of_some hdatabase]
        exact Dialogue.run_bind_of_none _ (ih h₁ hrest x₁)
      · exact Dialogue.run_bind_of_none _
          (congrArg Prod.fst (perform_halts h call hfirst (keptBeside peer) _))

theorem matches_ofBindings (exchange : String) (bindings : List Binding) (poller : PollerConfig) :
    Matches (ofBindings exchange bindings) (.ofBindings exchange bindings poller) [] where
  bindings := rfl
  isClosed := rfl
  queues queue := getElem?_ofBindings exchange bindings queue
  rows := by simp

theorem makesStreams_default {bindings : List Binding} :
    (DatabaseChannel.ofBindings exchange bindings {}).MakesStreams :=
  makesStreams_iff.mpr (show 10 ≤ DatabaseChannel.maxCapacity from by decide)

/-- The messages that wait in memory are those of the rows. -/
theorem Matches.waiting_eq (h : Matches c d stored) (queue : String) :
    c.waiting queue = bodies stored queue := by
  rw [waiting, h.queues]
  by_cases hbound : queue ∈ queuesOf d.bindings
  · rw [if_pos hbound]
    rfl
  · have hnone : stored.filter (fun row => row.queue = queue) = [] := by
      refine List.filter_eq_nil_iff.mpr fun row hrow heq => ?_
      exact hbound (of_decide_eq_true heq ▸ (h.rows row hrow).2)
    rw [if_neg hbound, bodies, hnone]
    rfl

/-- **The two channels agree.**  Let a channel in memory, and a channel in a database that
acknowledges every statement, get the same calls.  Each call returns, and returns the same on both
sides.  A message that is accepted is handed to the same queues on both sides, once to each that has
a binding for its key: in memory it waits in the queue, and in the database it is in a row.  The one
condition is that the runtime can make the streams of the consumers that come, which holds for
batches up to a limit; if it cannot, the call of the first such consumer returns in memory only. -/
theorem channels_agree (exchange : String) (bindings : List Binding) (poller : PollerConfig)
    (hpeer : Acknowledges peer) (calls : List ChannelCall) (x : σ) :
    ((DatabaseChannel.ofBindings exchange bindings poller).MakesStreams ↔
      poller.batchSize ≤ 2305843009213693951) ∧
    ∃ results c,
      ChannelCall.performAll MemoryChannel.channel calls (ofBindings exchange bindings) =
        (results, c) ∧
      results.length = calls.length ∧
      (∀ queue, c.waiting queue = accepted bindings queue (answeredAll calls results)) ∧
      ((DatabaseChannel.ofBindings exchange bindings poller).HasRoomFor
          (answeredAll calls results) →
        ∃ d stored y,
          (ChannelCall.performAll DatabaseChannel.channel calls
            (.ofBindings exchange bindings poller)).run (keptBeside peer) (resting [], x) =
            (some (results, d), (resting stored, y)) ∧
          (∀ row ∈ stored, row.exchange = exchange) ∧
          ∀ queue, bodies stored queue = accepted bindings queue (answeredAll calls results)) ∧
      (¬ (DatabaseChannel.ofBindings exchange bindings poller).HasRoomFor
          (answeredAll calls results) →
        ((ChannelCall.performAll DatabaseChannel.channel calls
          (.ofBindings exchange bindings poller)).run (keptBeside peer) (resting [], x)).1 =
          none) := by
  have hstart := matches_ofBindings exchange bindings poller
  -- What the channel in memory does can be seen beside a database that makes all streams.
  have hdefault : (DatabaseChannel.ofBindings exchange bindings {}).HasRoomFor
      ((ofBindings exchange bindings).answers calls) := fun _ _ => makesStreams_default
  obtain ⟨results, c, _, _, _, hmemory, _, hlength, hmatches, _, hbodies⟩ :=
    performAll_simulates (matches_ofBindings exchange bindings {}) hpeer calls hdefault x
  have hanswers : (ofBindings exchange bindings).answers calls = answeredAll calls results := by
    rw [answers, hmemory]
  refine ⟨makesStreams_iff, results, c, hmemory, hlength, fun queue => ?_,
    fun hroom => ?_, fun hroom => ?_⟩
  · exact (hmatches.waiting_eq queue).trans ((hbodies queue).trans (List.nil_append _))
  · obtain ⟨results', c', d, stored, y, hmemory', hdatabase, _, hmatches', hsettings, hbodies'⟩ :=
      performAll_simulates hstart hpeer calls (hanswers ▸ hroom) x
    obtain ⟨rfl, rfl⟩ := Prod.mk.inj (hmemory'.symm.trans hmemory)
    exact ⟨d, stored, y, hdatabase,
      fun row hrow => (hmatches'.rows row hrow).1.trans hsettings.exchange,
      fun queue => (hbodies' queue).trans (List.nil_append _)⟩
  · exact performAll_halts hstart hpeer calls (hanswers ▸ hroom) x

/-- Calls of every kind, of which some are refused. -/
def mixedCalls : List ChannelCall :=
  [.publish "vip.a" [49], .consume "vip", .consume "vip", .consume "none", .publish "b" [50], .close,
    .publish "vip.c" [51], .consume "none"]

/-- The peer replies to every statement that nothing was affected. -/
def idlePeer : Statement → StateM Unit Reply :=
  fun _ => pure .nothing

theorem acknowledges_idlePeer : Acknowledges idlePeer :=
  fun _ _ => Reply.succeeds_affected 0

/-- Both channels refuse what they refuse for the same reasons, and hand on the same message. -/
theorem mixedCalls_agree :
    Acknowledges idlePeer ∧
    ∃ results c d stored y,
      ChannelCall.performAll MemoryChannel.channel mixedCalls
        (ofBindings "notifications" overlapping) = (results, c) ∧
      (DatabaseChannel.ofBindings "notifications" overlapping {}).HasRoomFor
        (answeredAll mixedCalls results) ∧
      (ChannelCall.performAll DatabaseChannel.channel mixedCalls
        (.ofBindings "notifications" overlapping {})).run (keptBeside idlePeer) (resting [], ()) =
        (some (results, d), (resting stored, y)) ∧
      results = [.ok (), .ok (), .error (.alreadyConsuming "vip"), .error (.unknownQueue "none"),
        .ok (), .ok (), .error .closed, .error .closed] ∧
      c.waiting "vip" = [[49]] ∧ bodies stored "vip" = [[49]] := by
  obtain ⟨_, results, c, hmemory, _, hwaiting, hreturns, _⟩ :=
    channels_agree "notifications" overlapping {} acknowledges_idlePeer mixedCalls ()
  have hroom : (DatabaseChannel.ofBindings "notifications" overlapping {}).HasRoomFor
      (answeredAll mixedCalls results) := fun _ _ => makesStreams_default
  obtain ⟨d, stored, y, hdatabase, _, hbodies⟩ := hreturns hroom
  have hresults : (ChannelCall.performAll MemoryChannel.channel mixedCalls
      (ofBindings "notifications" overlapping)).1 =
        [.ok (), .ok (), .error (.alreadyConsuming "vip"), .error (.unknownQueue "none"), .ok (),
          .ok (), .error .closed, .error .closed] :=
    rfl
  rw [hmemory] at hresults
  have haccepted : accepted overlapping "vip" (answeredAll mixedCalls results) = [[49]] := by
    rw [show results = _ from hresults]
    rfl
  exact ⟨acknowledges_idlePeer, results, c, d, stored, y, hmemory, hroom, hdatabase, hresults,
    (hwaiting "vip").trans haccepted, (hbodies "vip").trans haccepted⟩

/-- The largest batch that a setting can ask for. -/
def endlessBatch : PollerConfig where
  batchSize := 18446744073709551615

/-- The settings ask for streams that cannot be made, and are accepted.  A consumer then comes to
its queue in memory, and halts in a database. -/
theorem endless_batch_divides :
    endlessBatch.validate = .ok () ∧ Acknowledges idlePeer ∧
      (ChannelCall.performAll MemoryChannel.channel [.consume "vip"]
        (ofBindings "notifications" overlapping)).1 = [.ok ()] ∧
      ((ChannelCall.performAll DatabaseChannel.channel [.consume "vip"]
        (.ofBindings "notifications" overlapping endlessBatch)).run (keptBeside idlePeer)
        (resting [], ())).1 = none := by
  have hmemory : (ChannelCall.performAll MemoryChannel.channel [.consume "vip"]
      (ofBindings "notifications" overlapping)).1 = [.ok ()] := rfl
  have hroom : ¬ (DatabaseChannel.ofBindings "notifications" overlapping endlessBatch).HasRoomFor
      ((ofBindings "notifications" overlapping).answers [.consume "vip"]) :=
    fun hroom => absurd (hroom "vip" (List.mem_singleton_self _)) (by decide)
  exact ⟨by decide +kernel, acknowledges_idlePeer, hmemory,
    performAll_halts (matches_ofBindings "notifications" overlapping endlessBatch)
      acknowledges_idlePeer [.consume "vip"] hroom ()⟩

end MemoryChannel

end Reminders
