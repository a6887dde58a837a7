import Reminders.Proofs.Bus.Memory

/-!
# Bus — what the consumers of a channel in memory read

A history of a channel is a list of calls with their answers, in any order: publishers, consumers,
readers and whoever closes the channel take turns as they like.  As long as its consumer does not
leave, a queue passes on, in order, each message that was accepted and whose key matches one of its
bindings.  What was read and what the queue still holds are together what was accepted for it.

* `Step.passes`: what a call makes of a queue.
* `Run.balance`: the messages accepted for a queue are those that were read and those it holds.
* `reads_what_is_accepted`: what a reader gets at each time, and when its stream ends.
-/

namespace Reminders

/-- What may happen to a channel in memory, with the answer that it gives. -/
inductive ChannelEvent where
  | publish (key : String) (body : Bytes) (result : Except ChannelError Unit)
  | consume (queue : String) (result : Except ChannelError Unit)
  /-- The consumer of a queue reads its stream. -/
  | read (queue : String) (received : Received)
  /-- The consumer of a queue drops its stream. -/
  | leave (queue : String)
  | close

namespace MemoryChannel

/-! ### Histories -/

/-- The queue has a consumer now. -/
def IsAttended (c : MemoryChannel) (queue : String) : Prop :=
  ∃ pending, c.queues[queue]? = some ⟨pending, .attached⟩

/-- A channel answers a call.  Only a consumer that is there reads its stream or drops it. -/
inductive Step : MemoryChannel → ChannelEvent → MemoryChannel → Prop
  | publish {c c' : MemoryChannel} {key : String} {body : Bytes} {result : Except ChannelError Unit}
      (h : c.publish key body = (result, c')) : Step c (.publish key body result) c'
  | consume {c c' : MemoryChannel} {queue : String} {result : Except ChannelError Unit}
      (h : c.consume queue = (result, c')) : Step c (.consume queue result) c'
  | read {c c' : MemoryChannel} {queue : String} {received : Received}
      (hattended : c.IsAttended queue) (h : c.receive queue = (received, c')) :
      Step c (.read queue received) c'
  | leave {c : MemoryChannel} {queue : String} (hattended : c.IsAttended queue) :
      Step c (.leave queue) (c.detach queue)
  | close {c : MemoryChannel} : Step c .close c.close.2

/-- A channel goes through a history. -/
inductive Run : MemoryChannel → List ChannelEvent → MemoryChannel → Prop
  | done (c : MemoryChannel) : Run c [] c
  | more {c c₁ c' : MemoryChannel} {event : ChannelEvent} {events : List ChannelEvent}
      (h : Step c event c₁) (t : Run c₁ events c') : Run c (event :: events) c'

/-- One of the bindings takes messages with the key to the queue. -/
def takes (bindings : List Binding) (queue key : String) : Bool :=
  bindings.any fun b => b.queue == queue && Topic.isMatch b.pattern key

/-- The message that a call makes the channel accept for a queue. -/
def accepted? (bindings : List Binding) (queue : String) : ChannelEvent → Option Bytes
  | .publish key body (.ok ()) => if takes bindings queue key then some body else none
  | _ => none

/-- The messages that the channel accepts for a queue, in order. -/
def accepted (bindings : List Binding) (queue : String) (events : List ChannelEvent) : List Bytes :=
  events.filterMap (accepted? bindings queue)

/-- The message that the reader of a queue gets by a call. -/
def got? (queue : String) : ChannelEvent → Option Bytes
  | .read queue' (.message body) => if queue' = queue then some body else none
  | _ => none

/-- The messages that the reader of a queue gets, in order. -/
def reads (queue : String) (events : List ChannelEvent) : List Bytes :=
  events.filterMap (got? queue)

/-- The call attaches the consumer of a queue. -/
def attaches (queue : String) : ChannelEvent → Bool
  | .consume queue' (.ok ()) => queue' == queue
  | _ => false

variable {c c' : MemoryChannel} {bindings : List Binding} {queue queue' key : String}
  {body : Bytes} {event : ChannelEvent} {events : List ChannelEvent} {pending : List Bytes}
  {consumer : Attachment} {result : Except ChannelError Unit} {received : Received}

theorem mem_route_iff_takes : queue ∈ route bindings key ↔ takes bindings queue key = true := by
  simp only [mem_route, takes, List.any_eq_true, Bool.and_eq_true, beq_iff_eq, and_comm]

theorem Run.append_iff {before after : List ChannelEvent} :
    Run c (before ++ after) c' ↔ ∃ c₁, Run c before c₁ ∧ Run c₁ after c' := by
  constructor
  · intro h
    induction before generalizing c with
    | nil => exact ⟨c, .done c, h⟩
    | cons event before ih =>
        cases h with
        | more hstep hrest =>
            obtain ⟨c₁, hbefore, hafter⟩ := ih hrest
            exact ⟨c₁, .more hstep hbefore, hafter⟩
  · rintro ⟨c₁, hbefore, hafter⟩
    induction hbefore with
    | done _ => exact hafter
    | more hstep _ ih => exact .more hstep (ih hafter)

/-! ### One call -/

/-- Nothing closes the channel but its being closed, and nothing opens it again. -/
theorem Step.isClosed_iff (h : Step c event c') :
    c'.isClosed = true ↔ c.isClosed = true ∨ .close = event := by
  cases h with
  | @publish _ key body _ h =>
      cases hclosed : c.isClosed with
      | true =>
          obtain ⟨_, rfl⟩ := Prod.mk.inj ((publish_of_isClosed hclosed key body).symm.trans h)
          simp [hclosed]
      | false =>
          obtain ⟨_, rfl⟩ := Prod.mk.inj ((publish_of_isOpen hclosed key body).symm.trans h)
          simp [hclosed]
  | consume h =>
      obtain ⟨_, _, rfl⟩ | ⟨_, _, _, rfl⟩ | ⟨_, ⟨_, _, rfl⟩, _⟩ | ⟨_, _, _, rfl⟩ := consume_cases h
      all_goals simp
  | read hattended h =>
      obtain ⟨pending, hqueue⟩ := hattended
      rw [receive_of_attached hqueue] at h
      cases pending with
      | nil => obtain ⟨_, rfl⟩ := Prod.mk.inj h; simp
      | cons _ _ => obtain ⟨_, rfl⟩ := Prod.mk.inj h; simp
  | leave _ => simp [detach]
  | close => simp [MemoryChannel.close]

/-- A channel with these bindings whose queue holds the messages for the consumer. -/
structure Holds (c : MemoryChannel) (bindings : List Binding) (queue : String)
    (pending : List Bytes) (consumer : Attachment) : Prop where
  bindings : c.bindings = bindings
  holds : c.queues[queue]? = some ⟨pending, consumer⟩

/-- The number of consumers that can still come. -/
def vacancies : Attachment → Nat
  | .free => 1
  | .attached | .gone => 0

/-- What becomes of a queue by a call that leads to `c'`.  A consumer that comes takes the vacancy.
Unless the consumer has left or leaves, the accepted message joins the queue, and the message that
the reader gets leaves it. -/
def Passes (c' : MemoryChannel) (bindings : List Binding) (queue : String) (pending : List Bytes)
    (consumer : Attachment) (event : ChannelEvent) : Prop :=
  ∃ pending' consumer', c'.Holds bindings queue pending' consumer' ∧
    (if attaches queue event then 1 else 0) + vacancies consumer' = vacancies consumer ∧
    (consumer ≠ .gone → .leave queue ≠ event → consumer' ≠ .gone ∧
      pending ++ (accepted? bindings queue event).toList = (got? queue event).toList ++ pending')

namespace Holds

/-- A call that does not touch the queue. -/
theorem passes_same (h : c'.Holds bindings queue pending consumer)
    (haccepted : accepted? bindings queue event = none) (hgot : got? queue event = none)
    (hattaches : attaches queue event = false) :
    c'.Passes bindings queue pending consumer event := by
  refine ⟨pending, consumer, h, ?_, fun hpresent _ => ⟨hpresent, ?_⟩⟩
  · rw [hattaches]
    exact Nat.zero_add _
  · rw [haccepted, hgot]
    exact List.append_nil _

/-- A change of another queue. -/
theorem insert_of_ne (h : c.Holds bindings queue pending consumer) (hne : queue' ≠ queue)
    (q : MemoryQueue) :
    Holds { c with queues := c.queues.insert queue' q } bindings queue pending consumer where
  bindings := h.bindings
  holds := by simpa [Std.ExtTreeMap.getElem?_insert, hne] using h.holds

theorem publish (h : c.Holds bindings queue pending consumer)
    (hpublish : c.publish key body = (result, c')) :
    c'.Passes bindings queue pending consumer (.publish key body result) := by
  cases hclosed : c.isClosed with
  | true =>
      obtain ⟨rfl, rfl⟩ := Prod.mk.inj ((publish_of_isClosed hclosed key body).symm.trans hpublish)
      exact h.passes_same rfl rfl rfl
  | false =>
      have hqueue := getElem?_publish hclosed key body queue
      rw [h.holds, h.bindings, Option.map_some, deliver, hpublish] at hqueue
      obtain ⟨rfl, rfl⟩ := Prod.mk.inj ((publish_of_isOpen hclosed key body).symm.trans hpublish)
      by_cases htakes : takes bindings queue key = true
      · rw [if_pos (mem_route_iff_takes.mpr htakes)] at hqueue
        by_cases hgone : consumer = .gone
        · rw [if_pos hgone] at hqueue
          exact ⟨pending, consumer, ⟨h.bindings, hqueue⟩, Nat.zero_add _,
            fun hpresent => absurd hgone hpresent⟩
        · rw [if_neg hgone] at hqueue
          refine ⟨pending ++ [body], consumer, ⟨h.bindings, hqueue⟩, Nat.zero_add _,
            fun hpresent _ => ⟨hpresent, ?_⟩⟩
          simp [accepted?, got?, htakes]
      · rw [if_neg (mt mem_route_iff_takes.mp htakes)] at hqueue
        have hnone : accepted? bindings queue (.publish key body (.ok ())) = none := if_neg htakes
        exact passes_same ⟨h.bindings, hqueue⟩ hnone rfl rfl

theorem consume (h : c.Holds bindings queue pending consumer)
    (hconsume : c.consume queue' = (result, c')) :
    c'.Passes bindings queue pending consumer (.consume queue' result) := by
  obtain ⟨_, rfl, rfl⟩ | ⟨_, _, rfl, rfl⟩ | ⟨_, ⟨bodies, hqueue, rfl⟩, rfl⟩ | ⟨_, _, rfl, rfl⟩ :=
    consume_cases hconsume
  · exact h.passes_same rfl rfl rfl
  · exact h.passes_same rfl rfl rfl
  · -- Only a consumer of the queue itself takes its vacancy.
    by_cases heq : queue' = queue
    · subst heq
      obtain ⟨rfl, rfl⟩ := MemoryQueue.mk.inj (Option.some.inj (h.holds.symm.trans hqueue))
      refine ⟨pending, .attached, ⟨h.bindings, Std.ExtTreeMap.getElem?_insert_self⟩, ?_,
        fun _ _ => ⟨nofun, List.append_nil _⟩⟩
      simp [attaches, vacancies]
    · exact (h.insert_of_ne heq _).passes_same rfl rfl (beq_eq_false_iff_ne.mpr heq)
  · exact h.passes_same rfl rfl rfl

theorem receive (h : c.Holds bindings queue pending consumer) (hattended : c.IsAttended queue')
    (hreceive : c.receive queue' = (received, c')) :
    c'.Passes bindings queue pending consumer (.read queue' received) := by
  obtain ⟨bodies, hqueue⟩ := hattended
  rw [receive_of_attached hqueue] at hreceive
  cases bodies with
  | nil =>
      obtain ⟨rfl, rfl⟩ := Prod.mk.inj hreceive
      exact h.passes_same rfl (by split <;> rfl) rfl
  | cons body rest =>
      obtain ⟨rfl, rfl⟩ := Prod.mk.inj hreceive
      by_cases heq : queue' = queue
      · subst heq
        obtain ⟨rfl, rfl⟩ := MemoryQueue.mk.inj (Option.some.inj (h.holds.symm.trans hqueue))
        refine ⟨rest, .attached, ⟨h.bindings, Std.ExtTreeMap.getElem?_insert_self⟩, Nat.zero_add _,
          fun _ _ => ⟨nofun, ?_⟩⟩
        simp [accepted?, got?]
      · exact (h.insert_of_ne heq _).passes_same rfl (if_neg heq) rfl

theorem detach (h : c.Holds bindings queue pending consumer) (hattended : c.IsAttended queue') :
    (c.detach queue').Passes bindings queue pending consumer (.leave queue') := by
  by_cases heq : queue' = queue
  · subst heq
    obtain ⟨bodies, hqueue⟩ := hattended
    obtain ⟨rfl, rfl⟩ := MemoryQueue.mk.inj (Option.some.inj (h.holds.symm.trans hqueue))
    refine ⟨[], .gone, ⟨h.bindings, ?_⟩, rfl, fun _ hstays => absurd rfl hstays⟩
    simp [MemoryChannel.detach, h.holds]
  · have hqueue : (c.detach queue').queues[queue]? = some ⟨pending, consumer⟩ := by
      simpa [MemoryChannel.detach, Std.ExtTreeMap.getElem?_modify, heq] using h.holds
    exact passes_same ⟨h.bindings, hqueue⟩ rfl rfl rfl

end Holds

/-- What becomes of a bound queue by a call. -/
theorem Step.passes (hstep : Step c event c') (h : c.Holds bindings queue pending consumer) :
    c'.Passes bindings queue pending consumer event := by
  cases hstep with
  | publish hpublish => exact h.publish hpublish
  | consume hconsume => exact h.consume hconsume
  | read hattended hreceive => exact h.receive hattended hreceive
  | leave hattended => exact h.detach hattended
  | close => exact Holds.passes_same ⟨h.bindings, h.holds⟩ rfl rfl rfl

/-! ### Histories of a queue -/

theorem accepted_cons (event : ChannelEvent) (events : List ChannelEvent) :
    accepted bindings queue (event :: events) =
      (accepted? bindings queue event).toList ++ accepted bindings queue events := by
  cases hevent : accepted? bindings queue event <;> simp [accepted, hevent]

theorem reads_cons (event : ChannelEvent) (events : List ChannelEvent) :
    reads queue (event :: events) = (got? queue event).toList ++ reads queue events := by
  cases hevent : got? queue event <;> simp [reads, hevent]

theorem Run.isClosed_iff (h : Run c events c') :
    c'.isClosed = true ↔ c.isClosed = true ∨ .close ∈ events := by
  induction h with
  | done _ => simp
  | more hstep _ ih => rw [ih, hstep.isClosed_iff, List.mem_cons, or_assoc]

/-- At most one consumer comes to a queue.  As long as it does not leave, the messages that the
queue held and those accepted for it are those that were read and those that it holds, in order. -/
theorem Run.balance (hrun : Run c events c') (h : c.Holds bindings queue pending consumer) :
    ∃ pending' consumer', c'.Holds bindings queue pending' consumer' ∧
      events.countP (attaches queue) + vacancies consumer' = vacancies consumer ∧
      (consumer ≠ .gone → .leave queue ∉ events →
        pending ++ accepted bindings queue events = reads queue events ++ pending') := by
  -- By induction on the history: the account of the first call, then that of the others.
  induction hrun generalizing pending consumer with
  | done _ => exact ⟨pending, consumer, h, Nat.zero_add _, fun _ _ => List.append_nil _⟩
  | @more c c₁ c' event events hstep _ ih =>
      obtain ⟨pending₁, consumer₁, h₁, hcome, hkept⟩ := hstep.passes h
      obtain ⟨pending', consumer', h', hcount, hrest⟩ := ih h₁
      refine ⟨pending', consumer', h', ?_, fun hpresent hstays => ?_⟩
      · rw [List.countP_cons]
        omega
      · obtain ⟨hne, hlater⟩ := List.ne_and_not_mem_of_not_mem_cons hstays
        obtain ⟨hpresent₁, hkept⟩ := hkept hpresent hne
        calc pending ++ accepted bindings queue (event :: events)
            = (got? queue event).toList ++ (pending₁ ++ accepted bindings queue events) := by
              rw [accepted_cons, ← List.append_assoc, hkept, List.append_assoc]
          _ = reads queue (event :: events) ++ pending' := by
              rw [hrest hpresent₁ hlater, reads_cons, List.append_assoc]

theorem holds_ofBindings (exchange : String) (hbound : ∃ b ∈ bindings, b.queue = queue) :
    (ofBindings exchange bindings).Holds bindings queue [] .free where
  bindings := rfl
  holds := by rw [getElem?_ofBindings, if_pos (mem_queuesOf.mpr hbound)]

theorem received_iff (hqueue : c.queues[queue]? = some ⟨pending, .attached⟩)
    (h : c.receive queue = (received, c')) :
    (∀ body, received = .message body ↔ ∃ rest, pending = body :: rest) ∧
      (received = .ended ↔ c.isClosed = true ∧ pending = []) := by
  rw [receive_of_attached hqueue] at h
  cases pending with
  | nil =>
      obtain ⟨rfl, rfl⟩ := Prod.mk.inj h
      cases hclosed : c.isClosed <;> simp
  | cons body rest =>
      obtain ⟨rfl, rfl⟩ := Prod.mk.inj h
      simp

/-! ### Histories from the start -/

section Start

variable {exchange : String} {before after : List ChannelEvent}

theorem Run.isClosed_iff_of_start (h : Run (ofBindings exchange bindings) events c) :
    c.isClosed = true ↔ .close ∈ events :=
  h.isClosed_iff.trans (or_iff_right nofun)

/-- What a bound queue holds. -/
theorem Run.accepted_eq (hrun : Run (ofBindings exchange bindings) events c)
    (hbound : ∃ b ∈ bindings, b.queue = queue) (hstays : .leave queue ∉ events) :
    ∃ pending consumer, c.queues[queue]? = some ⟨pending, consumer⟩ ∧
      accepted bindings queue events = reads queue events ++ pending := by
  obtain ⟨pending, consumer, h, _, hbalance⟩ := hrun.balance (holds_ofBindings exchange hbound)
  exact ⟨pending, consumer, h.holds, hbalance nofun hstays⟩

/-- A read yields the next of the accepted messages, or the end after all of them. -/
theorem Run.received_iff
    (hrun : Run (ofBindings exchange bindings) (before ++ .read queue received :: after) c)
    (hbound : ∃ b ∈ bindings, b.queue = queue) (hstays : .leave queue ∉ before) :
    (∀ body, received = .message body ↔
      ∃ rest, accepted bindings queue before = reads queue before ++ body :: rest) ∧
    (received = .ended ↔
      .close ∈ before ∧ accepted bindings queue before = reads queue before) := by
  obtain ⟨c₁, hbefore, hrest⟩ := Run.append_iff.mp hrun
  obtain ⟨pending, consumer, hqueue, heq⟩ := hbefore.accepted_eq hbound hstays
  cases hrest with
  | more hstep _ =>
      cases hstep with
      | read hattended hreceive =>
          obtain ⟨bodies, hattached⟩ := hattended
          obtain ⟨rfl, rfl⟩ := MemoryQueue.mk.inj (Option.some.inj (hqueue.symm.trans hattached))
          rw [heq, ← hbefore.isClosed_iff_of_start]
          simpa using MemoryChannel.received_iff hattached hreceive

/-- A channel refuses messages exactly after it was closed, and then they change nothing. -/
theorem Run.published_iff {key : String} {body : Bytes} {result : Except ChannelError Unit}
    (hrun : Run (ofBindings exchange bindings) (before ++ .publish key body result :: after) c) :
    (.close ∉ before → result = .ok ()) ∧
    (.close ∈ before → result = .error .closed ∧
      ∃ c₁, Run (ofBindings exchange bindings) before c₁ ∧ Run c₁ after c) := by
  obtain ⟨c₁, hbefore, hrest⟩ := Run.append_iff.mp hrun
  rw [← hbefore.isClosed_iff_of_start, Bool.not_eq_true]
  cases hrest with
  | more hstep hafter =>
      cases hstep with
      | publish hpublish =>
          refine ⟨fun hopen => ?_, fun hclosed => ?_⟩
          · rw [publish_of_isOpen hopen] at hpublish
            exact (Prod.mk.inj hpublish).1.symm
          · rw [publish_of_isClosed hclosed] at hpublish
            obtain ⟨rfl, rfl⟩ := Prod.mk.inj hpublish
            exact ⟨rfl, c₁, hbefore, hafter⟩

/-- **What readers get.**  Let a channel in memory go through a history.  As long as the consumer of
a bound queue does not leave, what it has read is at each time a prefix of the messages accepted for
the queue; a read yields the next of these, and the end if there is none and the channel was closed
before.  The channel refuses messages exactly after it was closed, and then they change nothing.  A
bound queue gets at most one consumer. -/
theorem reads_what_is_accepted (hrun : Run (ofBindings exchange bindings) events c) :
    (∀ queue, (∃ b ∈ bindings, b.queue = queue) → .leave queue ∉ events →
      (∀ before after, events = before ++ after →
        reads queue before <+: accepted bindings queue before) ∧
      ∀ before received after, events = before ++ .read queue received :: after →
        (∀ body, received = .message body ↔
          ∃ rest, accepted bindings queue before = reads queue before ++ body :: rest) ∧
        (received = .ended ↔
          .close ∈ before ∧ accepted bindings queue before = reads queue before)) ∧
    (∀ before key body result after, events = before ++ .publish key body result :: after →
      (.close ∉ before → result = .ok ()) ∧
      (.close ∈ before → result = .error .closed ∧
        ∃ c₁, Run (ofBindings exchange bindings) before c₁ ∧ Run c₁ after c)) ∧
    ∀ queue, (∃ b ∈ bindings, b.queue = queue) → events.countP (attaches queue) ≤ 1 := by
  refine ⟨fun queue hbound hstays => ⟨?_, ?_⟩, ?_, fun queue hbound => ?_⟩
  · rintro before after rfl
    obtain ⟨c₁, hbefore, _⟩ := Run.append_iff.mp hrun
    obtain ⟨pending, _, _, heq⟩ :=
      hbefore.accepted_eq hbound fun h => hstays (List.mem_append_left _ h)
    exact ⟨pending, heq.symm⟩
  · rintro before received after rfl
    exact hrun.received_iff hbound fun h => hstays (List.mem_append_left _ h)
  · rintro before key body result after rfl
    exact hrun.published_iff
  · obtain ⟨_, consumer, _, hcount, _⟩ := hrun.balance (holds_ofBindings exchange hbound)
    exact Nat.le.intro hcount

end Start

/-! ### Two bindings that overlap -/

theorem Step.read_cons {body : Bytes} (h : c.queues[queue]? = some ⟨body :: pending, .attached⟩) :
    Step c (.read queue (.message body))
      { c with queues := c.queues.insert queue ⟨pending, .attached⟩ } :=
  .read ⟨_, h⟩ (receive_of_attached h)

theorem Step.read_nil (h : c.queues[queue]? = some ⟨[], .attached⟩) (hclosed : c.isClosed = true) :
    Step c (.read queue .ended) c :=
  .read ⟨_, h⟩ (by rw [receive_of_attached h, if_pos hclosed])

/-- Two bindings of one queue match the same keys. -/
def overlapping : List Binding :=
  [⟨"vip", "vip.*"⟩, ⟨"vip", "vip.#"⟩, ⟨"all", "#"⟩]

/-- Messages come before the consumer, after it and after the end. -/
def vipHistory : List ChannelEvent :=
  [.publish "vip.a" [49] (.ok ()), .consume "vip" (.ok ()), .publish "b" [50] (.ok ()),
    .read "vip" (.message [49]), .publish "vip.c" [51] (.ok ()), .close,
    .publish "vip.d" [52] (.error .closed), .read "vip" (.message [51]), .read "vip" .ended]

theorem run_vipHistory : ∃ c, Run (ofBindings "notifications" overlapping) vipHistory c :=
  ⟨_, .more (.publish (publish_of_isOpen rfl _ _))
    (.more (.consume (@consume_of_free _ _ [[49]] rfl (by decide +kernel)))
    (.more (.publish (publish_of_isOpen rfl _ _))
    (.more (@Step.read_cons _ _ [] _ (by decide +kernel))
    (.more (.publish (publish_of_isOpen rfl _ _))
    (.more .close
    (.more (.publish (publish_of_isClosed rfl _ _))
    (.more (@Step.read_cons _ _ [] _ (by decide +kernel))
    (.more (.read_nil (by decide +kernel) rfl) (.done _)))))))))⟩

/-- The reader gets each of its messages once, although both bindings match, and then the end. -/
theorem vip_reads_once :
    ∃ c, Run (ofBindings "notifications" overlapping) vipHistory c ∧
      (∃ b ∈ overlapping, b.queue = "vip") ∧ .leave "vip" ∉ vipHistory ∧
      accepted overlapping "vip" vipHistory = [[49], [51]] ∧
      reads "vip" vipHistory <+: accepted overlapping "vip" vipHistory ∧
      vipHistory.countP (attaches "vip") ≤ 1 := by
  obtain ⟨c, hrun⟩ := run_vipHistory
  have hbound : ∃ b ∈ overlapping, b.queue = "vip" := ⟨_, List.mem_cons_self, rfl⟩
  have hstays : .leave "vip" ∉ vipHistory := by simp [vipHistory]
  obtain ⟨hreads, _, honce⟩ := reads_what_is_accepted hrun
  exact ⟨c, hrun, hbound, hstays, by decide +kernel,
    (hreads "vip" hbound hstays).1 vipHistory [] (List.append_nil _).symm, honce "vip" hbound⟩

end MemoryChannel

end Reminders
