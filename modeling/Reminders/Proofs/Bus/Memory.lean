import Reminders.Bus.Memory
import Reminders.Proofs.Bus.Routing

/-!
# Bus — what a channel in memory holds

An open channel *gathers* messages in a queue if every key is routed to the queue and its consumer
has not left: then each message that is published joins the end of the queue.  Once the channel is
closed, the consumer *drains* the queue: it gets what the queue holds, in order, and then the end.

* `getElem?_publish`: what a message does to each queue.
* `consume_cases`, `receive_of_attached`: what a consumer gets.
* `Gathers.publish`, `Gathers.consume`, `Gathers.close`: what becomes of a gathering queue.
* `Drains.receive_cons`, `Drains.receive_nil`: what the consumer of a draining queue gets.
-/

namespace Reminders.MemoryChannel

variable {c : MemoryChannel} {queue : String} {bodies : List Bytes} {consumer : Attachment}

/-- A change of some queues, each named once. -/
theorem getElem?_foldl_modify {names : List String} (h : names.Nodup)
    (f : MemoryQueue → MemoryQueue) (queues : Std.ExtTreeMap String MemoryQueue) (queue : String) :
    (names.foldl (fun m name => m.modify name f) queues)[queue]? =
      if queue ∈ names then queues[queue]?.map f else queues[queue]? := by
  -- Since no name occurs twice, a queue that was changed is not changed again.
  induction names generalizing queues with
  | nil => simp
  | cons name names ih =>
      obtain ⟨hname, hnames⟩ := List.nodup_cons.mp h
      rw [List.foldl_cons, ih hnames]
      simp only [Std.ExtTreeMap.getElem?_modify, Std.LawfulEqCmp.compare_eq_iff_eq, List.mem_cons]
      by_cases heq : name = queue
      · subst heq
        simp [hname]
      · simp [heq, Ne.symm heq]

/-- Some queues are made alike. -/
theorem getElem?_foldl_insert (names : List String) (q : MemoryQueue)
    (queues : Std.ExtTreeMap String MemoryQueue) (queue : String) :
    (names.foldl (fun m name => m.insert name q) queues)[queue]? =
      if queue ∈ names then some q else queues[queue]? := by
  induction names generalizing queues with
  | nil => simp
  | cons name names ih =>
      rw [List.foldl_cons, ih]
      simp only [Std.ExtTreeMap.getElem?_insert, Std.LawfulEqCmp.compare_eq_iff_eq, List.mem_cons]
      by_cases hnames : queue ∈ names
      · simp [hnames]
      · simp [hnames, eq_comm]

/-- An open channel takes a message and hands it to the queues that its key is routed to. -/
theorem publish_of_isOpen (h : c.isClosed = false) (key : String) (body : Bytes) :
    c.publish key body = (.ok (), { c with
      queues := (route c.bindings key).foldl (fun m queue => m.modify queue (deliver body))
        c.queues }) := by
  rw [publish, if_neg (by rw [h]; decide)]

theorem publish_of_isClosed (h : c.isClosed = true) (key : String) (body : Bytes) :
    c.publish key body = (.error .closed, c) :=
  if_pos h

/-- The consumer of a queue comes. -/
theorem consume_of_free (h : c.isClosed = false)
    (hqueue : c.queues[queue]? = some ⟨bodies, .free⟩) :
    c.consume queue =
      (.ok (), { c with queues := c.queues.insert queue ⟨bodies, .attached⟩ }) := by
  simp only [consume, if_neg (Bool.eq_false_iff.mp h), hqueue, if_true]

/-- What an attempt to attach the consumer of a queue may come to. -/
theorem consume_cases {c' : MemoryChannel} {result : Except ChannelError Unit}
    (h : c.consume queue = (result, c')) :
    (c.isClosed = true ∧ result = .error .closed ∧ c' = c) ∨
    (c.isClosed = false ∧ c.queues[queue]? = none ∧
      result = .error (.unknownQueue queue) ∧ c' = c) ∨
    (c.isClosed = false ∧ (∃ bodies, c.queues[queue]? = some ⟨bodies, .free⟩ ∧
      c' = { c with queues := c.queues.insert queue ⟨bodies, .attached⟩ }) ∧ result = .ok ()) ∨
    (c.isClosed = false ∧ (∃ q, c.queues[queue]? = some q ∧ q.consumer ≠ .free) ∧
      result = .error (.alreadyConsuming queue) ∧ c' = c) := by
  rw [consume] at h
  split at h
  · next hclosed =>
      obtain ⟨rfl, rfl⟩ := Prod.mk.inj h
      exact .inl ⟨hclosed, rfl, rfl⟩
  · next hopen =>
      rw [Bool.not_eq_true] at hopen
      split at h
      · next hnone =>
          obtain ⟨rfl, rfl⟩ := Prod.mk.inj h
          exact .inr (.inl ⟨hopen, hnone, rfl, rfl⟩)
      · next q hq =>
          split at h
          · next hfree =>
              obtain ⟨rfl, rfl⟩ := Prod.mk.inj h
              exact .inr (.inr (.inl ⟨hopen, ⟨q.pending, hfree ▸ hq, rfl⟩, rfl⟩))
          · next hbusy =>
              obtain ⟨rfl, rfl⟩ := Prod.mk.inj h
              exact .inr (.inr (.inr ⟨hopen, ⟨q, hq, hbusy⟩, rfl, rfl⟩))

/-- What the consumer of a queue gets, and what it leaves. -/
theorem receive_of_attached (h : c.queues[queue]? = some ⟨bodies, .attached⟩) :
    c.receive queue = match bodies with
      | body :: rest =>
        (.message body, { c with queues := c.queues.insert queue ⟨rest, .attached⟩ })
      | [] => (if c.isClosed then .ended else .nothing, c) := by
  cases bodies <;> simp only [receive, h]

/-- A message reaches the queues that its key is routed to, each once. -/
theorem getElem?_publish (h : c.isClosed = false) (key : String) (body : Bytes) (queue : String) :
    (c.publish key body).2.queues[queue]? =
      if queue ∈ route c.bindings key then c.queues[queue]?.map (deliver body)
      else c.queues[queue]? := by
  rw [publish_of_isOpen h]
  exact getElem?_foldl_modify (nodup_route _ _) _ _ _

/-- In a new channel, each bound queue is empty and has no consumer. -/
theorem getElem?_ofBindings (exchange : String) (bindings : List Binding) (queue : String) :
    (ofBindings exchange bindings).queues[queue]? =
      if queue ∈ queuesOf bindings then some ⟨[], .free⟩ else none := by
  rw [ofBindings, getElem?_foldl_insert, Std.ExtTreeMap.getElem?_empty]

/-- The channel is open and hands every message to the queue, which holds these. -/
structure Gathers (c : MemoryChannel) (queue : String) (bodies : List Bytes)
    (consumer : Attachment) : Prop where
  isOpen : c.isClosed = false
  routed : ∀ key, queue ∈ route c.bindings key
  holds : c.queues[queue]? = some ⟨bodies, consumer⟩
  present : consumer ≠ .gone

/-- The channel is closed, and its consumer has these messages of the queue before it. -/
structure Drains (c : MemoryChannel) (queue : String) (bodies : List Bytes) : Prop where
  isClosed : c.isClosed = true
  holds : c.queues[queue]? = some ⟨bodies, .attached⟩

/-- With a single binding for all keys, a new channel gathers in its queue. -/
theorem gathers_ofBindings (exchange queue : String) :
    (ofBindings exchange [⟨queue, "#"⟩]).Gathers queue [] .free where
  isOpen := rfl
  routed key := mem_route.mpr ⟨_, List.mem_singleton.mpr rfl, Topic.isMatch_hash key, rfl⟩
  holds := by
    have hbound : queue ∈ queuesOf [⟨queue, "#"⟩] :=
      mem_queuesOf.mpr ⟨_, List.mem_singleton.mpr rfl, rfl⟩
    rw [getElem?_ofBindings, if_pos hbound]
  present := nofun

namespace Gathers

theorem publish (h : c.Gathers queue bodies consumer) (key : String) (body : Bytes) :
    (c.publish key body).1 = .ok () ∧
      (c.publish key body).2.Gathers queue (bodies ++ [body]) consumer := by
  have hholds : (c.publish key body).2.queues[queue]? = some ⟨bodies ++ [body], consumer⟩ := by
    rw [getElem?_publish h.isOpen, if_pos (h.routed key), h.holds, Option.map_some, deliver,
      if_neg h.present]
  rw [publish_of_isOpen h.isOpen] at hholds ⊢
  exact ⟨rfl, h.isOpen, h.routed, hholds, h.present⟩

/-- The consumer comes; the queue keeps what it holds. -/
theorem consume (h : c.Gathers queue bodies .free) :
    (c.consume queue).1 = .ok () ∧ (c.consume queue).2.Gathers queue bodies .attached := by
  rw [consume_of_free h.isOpen h.holds]
  exact ⟨rfl, h.isOpen, h.routed, Std.ExtTreeMap.getElem?_insert_self, nofun⟩

theorem close (h : c.Gathers queue bodies .attached) : c.close.2.Drains queue bodies :=
  ⟨rfl, h.holds⟩

end Gathers

namespace Drains

theorem receive_cons {body : Bytes} (h : c.Drains queue (body :: bodies)) :
    (c.receive queue).1 = .message body ∧ (c.receive queue).2.Drains queue bodies := by
  rw [receive_of_attached h.holds]
  exact ⟨rfl, h.isClosed, Std.ExtTreeMap.getElem?_insert_self⟩

theorem receive_nil (h : c.Drains queue []) : c.receive queue = (.ended, c) := by
  rw [receive_of_attached h.holds, if_pos h.isClosed]

end Drains

end Reminders.MemoryChannel
