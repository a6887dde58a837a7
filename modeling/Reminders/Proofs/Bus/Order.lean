import Reminders.Proofs.Bus.Consumer
import Mathlib.Data.List.Forall2

/-!
# Bus — the order of a stream

A reply to a poll *delivers* a batch: the messages in its rows, in the order of their numbers, or
nothing if it tells of a fault.  The rows may come in any order.

Whatever the database replies, whatever the reader does and whenever the channel is closed, the
reader has got a part of the batches from the front.  No poll is sent before all batches are in the
stream, and a fault costs the messages of no other poll.

* `exists_delivers`, `Delivers.unique`: every reply with distinct numbers delivers one batch.
* `claims_eq_flatten`: what a consumer claims are the batches of the replies.
* `exists_rest_of_run`: what enters a place in order leaves it in order.
* `exists_left_of_run`, `exists_unread_of_run`: what is not in the stream, and what was not read.
* `streams_are_in_order`: the stream at any time.
-/

namespace Reminders.Consumer

open Database

variable {c c' : Consumer} {event : ConsumerEvent} {events : List ConsumerEvent} {reply : Reply}
  {bodies bodies' : List Bytes}

/-! ### Batches -/

/-- The row with a message and its number. -/
def rowOf (message : Int × Bytes) : Row :=
  [.integer message.1, .bytes message.2]

/-- The reply tells of a fault: the statement failed, or a row is not that of a message. -/
inductive Fails : Reply → Prop where
  | failure (code : String) : Fails (.failure code)
  | unreadable {reply : Reply}
      (h : ∀ messages : List (Int × Bytes), reply.found ≠ messages.map rowOf) : Fails reply

/-- The messages in the rows have distinct numbers. -/
def IsNumbered (reply : Reply) : Prop :=
  ∀ messages : List (Int × Bytes), reply.found = messages.map rowOf →
    (messages.map Prod.fst).Nodup

/-- A poll with the reply delivers the messages. -/
inductive Delivers : Reply → List Bytes → Prop where
  /-- A fault delivers nothing. -/
  | failed {reply : Reply} (h : Fails reply) : Delivers reply []
  /-- Messages are delivered in the order of their numbers. -/
  | found {reply : Reply} {messages : List (Int × Bytes)} (inOrder : List (Int × Bytes))
      (h : reply.found = messages.map rowOf) (hsame : inOrder.Perm messages)
      (horder : inOrder.Pairwise fun a b => a.1 < b.1) :
      Delivers reply (inOrder.map Prod.snd)

theorem rowOf_injective : Function.Injective rowOf := by
  rintro ⟨id, body⟩ ⟨id', body'⟩ h
  cases h
  rfl

theorem isNumbered_of_found (messages : List (Int × Bytes))
    (h : reply.found = messages.map rowOf) (hdistinct : (messages.map Prod.fst).Nodup) :
    IsNumbered reply := by
  intro messages' h'
  obtain rfl : messages = messages' :=
    List.map_injective_iff.mpr rowOf_injective (h.symm.trans h')
  exact hdistinct

theorem messageOfRow_eq_some {row : Row} {message : Int × Bytes} :
    Poller.messageOfRow row = some message ↔ row = rowOf message := by
  constructor
  · intro h
    simp only [Poller.messageOfRow] at h
    split at h
    · obtain rfl := Option.some.inj h
      rfl
    · cases h
  · rintro rfl
    rfl

theorem mapM_messageOfRow_eq_some {rows : List Row} {messages : List (Int × Bytes)} :
    rows.mapM Poller.messageOfRow = some messages ↔ rows = messages.map rowOf := by
  induction rows generalizing messages with
  | nil => simp [eq_comm]
  | cons row rows ih =>
      simp only [List.mapM_cons, Option.bind_eq_bind, Option.bind_eq_some_iff,
        messageOfRow_eq_some, ih]
      constructor
      · rintro ⟨message, rfl, rest, rfl, h⟩
        obtain rfl := Option.some.inj h
        rfl
      · intro h
        obtain ⟨message, rest, rfl, rfl, rfl⟩ := List.map_eq_cons_iff.mp h.symm
        exact ⟨message, rfl, rest, rfl, rfl⟩

/-- Sorting messages with distinct numbers puts them into the strict order of the numbers. -/
theorem pairwise_mergeSort_lt {messages : List (Int × Bytes)} (h : (messages.map Prod.fst).Nodup) :
    (messages.mergeSort fun a b => decide (a.1 ≤ b.1)).Pairwise fun a b => a.1 < b.1 := by
  have hle : (messages.mergeSort fun a b => decide (a.1 ≤ b.1)).Pairwise fun a b => a.1 ≤ b.1 := by
    refine (List.pairwise_mergeSort ?_ ?_ messages).imp of_decide_eq_true
    · intro a b c hab hbc
      exact decide_eq_true (Int.le_trans (of_decide_eq_true hab) (of_decide_eq_true hbc))
    · intro a b
      rcases Int.le_total a.1 b.1 with hab | hba
      · rw [decide_eq_true hab, Bool.true_or]
      · rw [decide_eq_true hba, Bool.or_true]
  have hne : (messages.mergeSort fun a b => decide (a.1 ≤ b.1)).Pairwise fun a b => a.1 ≠ b.1 :=
    List.pairwise_map.mp (((List.mergeSort_perm messages _).map Prod.fst).nodup_iff.mpr h)
  exact (hle.and hne).imp fun ⟨hab, hab'⟩ => Int.lt_iff_le_and_ne.mpr ⟨hab, hab'⟩

/-- Every reply with distinct numbers delivers a batch. -/
theorem exists_delivers (h : IsNumbered reply) : ∃ bodies, Delivers reply bodies := by
  by_cases hrows : ∃ messages : List (Int × Bytes), reply.found = messages.map rowOf
  · obtain ⟨messages, hmessages⟩ := hrows
    exact ⟨_, .found _ hmessages (List.mergeSort_perm messages _)
      (pairwise_mergeSort_lt (h messages hmessages))⟩
  · exact ⟨[], .failed (.unreadable fun messages hmessages => hrows ⟨messages, hmessages⟩)⟩

/-- A reply that tells of a fault is read as one. -/
theorem Fails.messagesOf_eq (h : Fails reply) :
    ∃ detail, Poller.messagesOf reply = .error detail := by
  cases h with
  | failure code => exact ⟨_, rfl⟩
  | unreadable h =>
      cases reply with
      | failure code => exact ⟨_, rfl⟩
      | affected count => exact absurd rfl (h [])
      | rows rows =>
          have hnone : rows.mapM Poller.messageOfRow = none := by
            refine Option.eq_none_iff_forall_ne_some.mpr fun messages hmessages => ?_
            exact h messages (mapM_messageOfRow_eq_some.mp hmessages)
          exact ⟨columnText "id or body", by simp only [Poller.messagesOf, Reply.found, hnone]⟩

/-- A reply that holds messages is read as them, sorted by their numbers. -/
theorem messagesOf_eq_sorted {messages : List (Int × Bytes)}
    (hok : ∀ code, reply ≠ .failure code) (h : reply.found = messages.map rowOf) :
    Poller.messagesOf reply =
      .ok ((messages.mergeSort fun a b => decide (a.1 ≤ b.1)).map Prod.snd) := by
  cases reply with
  | failure code => exact absurd rfl (hok code)
  | affected count => simp only [Poller.messagesOf, h, mapM_messageOfRow_eq_some.mpr rfl]
  | rows rows => simp only [Poller.messagesOf, h, mapM_messageOfRow_eq_some.mpr rfl]

/-- Messages with distinct numbers are read in the strict order of the numbers. -/
theorem messagesOf_of_found {messages inOrder : List (Int × Bytes)}
    (hok : ∀ code, reply ≠ .failure code) (h : reply.found = messages.map rowOf)
    (hsame : inOrder.Perm messages) (horder : inOrder.Pairwise fun a b => a.1 < b.1) :
    Poller.messagesOf reply = .ok (inOrder.map Prod.snd) := by
  have hdistinct : (messages.map Prod.fst).Nodup := by
    refine (hsame.map Prod.fst).nodup_iff.mp (List.pairwise_map.mpr (horder.imp ?_))
    intro a b hab
    exact Int.ne_of_lt hab
  have hsorted : (messages.mergeSort fun a b => decide (a.1 ≤ b.1)) = inOrder := by
    refine ((List.mergeSort_perm messages _).trans hsame.symm).eq_of_pairwise ?_
      (pairwise_mergeSort_lt hdistinct) horder
    intro a b _ _ hab hba
    exact absurd hba (Int.lt_asymm hab)
  rw [← hsorted]
  exact messagesOf_eq_sorted hok h

/-- The messages that are taken out of a reply. -/
def taken (reply : Reply) : List Bytes :=
  match Poller.messagesOf reply with
  | .ok messages => messages
  | .error _ => []

theorem claimed_reply (c : Consumer) (reply : Reply) : c.claimed (.reply reply) = taken reply := by
  rw [claimed, Poller.absorb, taken]
  rcases Poller.messagesOf reply with detail | _ | ⟨body, bodies⟩ <;> rfl

namespace Delivers

/-- The batch that a reply delivers is taken out of it. -/
theorem taken_eq (h : Delivers reply bodies) : taken reply = bodies := by
  cases h with
  | failed h =>
      obtain ⟨detail, hread⟩ := h.messagesOf_eq
      rw [taken, hread]
  | found inOrder h hsame horder =>
      by_cases hcode : ∃ code, reply = .failure code
      · obtain ⟨code, rfl⟩ := hcode
        obtain rfl := List.map_eq_nil_iff.mp h.symm
        obtain rfl := hsame.eq_nil
        rfl
      · rw [taken, messagesOf_of_found (not_exists.mp hcode) h hsame horder]

theorem unique (h : Delivers reply bodies) (h' : Delivers reply bodies') : bodies = bodies' :=
  h.taken_eq.symm.trans h'.taken_eq

end Delivers

/-! ### What is claimed -/

/-- The replies among some events. -/
def replies (events : List ConsumerEvent) : List Reply :=
  events.filterMap fun
    | .reply reply => some reply
    | _ => none

/-- If the numbers in every reply are distinct, every poll delivers a batch. -/
theorem exists_batches (h : ∀ reply, .reply reply ∈ events → IsNumbered reply) :
    ∃ batches, List.Forall₂ Delivers (replies events) batches := by
  induction events with
  | nil => exact ⟨[], .nil⟩
  | cons event events ih =>
      obtain ⟨batches, hbatches⟩ := ih fun reply hreply => h reply (List.mem_cons_of_mem _ hreply)
      cases event with
      | reply reply =>
          obtain ⟨bodies, hbodies⟩ := exists_delivers (h reply List.mem_cons_self)
          exact ⟨bodies :: batches, .cons hbodies hbatches⟩
      | _ => exact ⟨batches, hbatches⟩

/-- What is claimed are the batches, one after another. -/
theorem claims_eq_flatten {batches : List (List Bytes)} (hrun : c.run events = some c')
    (hbatches : List.Forall₂ Delivers (replies events) batches) :
    c.claims events = batches.flatten := by
  induction events generalizing c batches with
  | nil =>
      cases hbatches
      rfl
  | cons event events ih =>
      obtain ⟨c₁, hstep, hrest⟩ := run_cons.mp hrun
      rw [claims, gathered_cons hstep]
      cases event with
      | reply reply =>
          obtain ⟨bodies, batches, hbodies, hlater, rfl⟩ := List.forall₂_cons_left_iff.mp hbatches
          rw [claimed_reply, hbodies.taken_eq, List.flatten_cons]
          exact congrArg (bodies ++ ·) (ih hrest hlater)
      | _ => exact ih hrest hbatches

/-! ### What is forwarded and what is read -/

/-- A consumer that stops puts nothing more into the stream. -/
theorem forwarded_of_stopped (h : c.step event = some c') (hstopped : c'.phase = .stopped) :
    c.forwarded event = [] := by
  cases event with
  | forward =>
      simp only [step] at h
      split at h
      · obtain ⟨_, ⟨⟩⟩ := Option.ite_none_right_eq_some.mp h
        cases hstopped
      · cases h
  | _ => rfl

/-- A consumer that does not stop forwards what it has claimed in order. -/
theorem step_going (h : c.step event = some c') (hgoing : c'.phase ≠ .stopped) :
    c.held ++ c.claimed event = c.forwarded event ++ c'.held := by
  have hnotice : event ≠ .noticeReaderGone := by
    rintro rfl
    simp only [step] at h
    split at h
    · obtain ⟨_, ⟨⟩⟩ := Option.ite_none_right_eq_some.mp h
      exact hgoing rfl
    · cases h
  have hkept : c.abandoned event = [] := by
    by_contra hlost
    obtain ⟨_, _, _, hstopped⟩ := stopped_of_abandoned h hlost
    exact hgoing hstopped
  rw [(moves_of_step h).batch hnotice, hkept, List.append_nil]

/-- A reader that is gone gets nothing more, and does not come back. -/
theorem step_gone (h : c.step event = some c') (hgone : c.readerGone = true) :
    c'.readerGone = true := by
  have hdrop : event ≠ .dropReader := by
    rintro rfl
    rw [step, if_pos hgone] at h
    cases h
  exact ((moves_of_step h).reader hdrop).trans hgone

theorem yielded_of_gone (h : c.step event = some c') (hgone : c'.readerGone = true) :
    c.yielded event = [] := by
  cases event with
  | read =>
      have hgone' : c.readerGone = true := ((moves_of_step h).reader nofun).symm.trans hgone
      simp only [step] at h
      split at h
      · rw [if_pos hgone'] at h
        cases h
      · cases h
  | _ => rfl

/-- Until the reader is gone, it gets what is in the stream in order. -/
theorem step_present (h : c.step event = some c') (hpresent : ¬ c'.readerGone = true) :
    c.buffer ++ c.forwarded event = c.yielded event ++ c'.buffer := by
  refine (moves_of_step h).stream ?_
  rintro rfl
  obtain ⟨_, ⟨⟩⟩ := Option.ite_none_left_eq_some.mp h
  exact hpresent rfl

/-- Let messages enter a place and leave it in order, until it is shut for ever.  What entered it
has left it in order but for a rest, and while the place is not shut, the rest is still there. -/
theorem exists_rest_of_run {content : Consumer → List Bytes}
    {entering leaving : Consumer → ConsumerEvent → List Bytes} (Shut : Consumer → Prop)
    (hshut : ∀ {c event c'}, c.step event = some c' → Shut c → Shut c')
    (hnone : ∀ {c event c'}, c.step event = some c' → Shut c' → leaving c event = [])
    (hpass : ∀ {c event c'}, c.step event = some c' → ¬ Shut c' →
      content c ++ entering c event = leaving c event ++ content c')
    (hrun : c.run events = some c') :
    ∃ rest, content c ++ gathered entering c events = gathered leaving c events ++ rest ∧
      (¬ Shut c' → rest = content c') := by
  induction events generalizing c with
  | nil =>
      obtain rfl := Option.some.inj hrun
      exact ⟨content c, by simp [gathered], fun _ => rfl⟩
  | cons event events ih =>
      obtain ⟨c₁, hstep, hrest⟩ := run_cons.mp hrun
      rw [gathered_cons hstep, gathered_cons hstep]
      by_cases hc₁ : Shut c₁
      · have hlater : Shut c' ∧ gathered leaving c₁ events = [] :=
          run_keeps Shut (fun h hc => ⟨hshut h hc, hnone h (hshut h hc)⟩) hrest hc₁
        rw [hnone hstep hc₁, hlater.2]
        exact ⟨_, rfl, fun hopen => absurd hlater.1 hopen⟩
      · obtain ⟨rest, heq, hend⟩ := ih hrest
        refine ⟨rest, ?_, hend⟩
        rw [← List.append_assoc, hpass hstep hc₁, List.append_assoc, heq, List.append_assoc]

/-- What was claimed is in the stream in order, or is left; a consumer that has not stopped still
holds what is left. -/
theorem exists_left_of_run (hrun : c.run events = some c') :
    ∃ left, c.held ++ c.claims events = c.forwards events ++ left ∧
      (c'.phase ≠ .stopped → left = c'.held) :=
  exists_rest_of_run (·.phase = .stopped) (fun h hc => (step_stopped h hc).1) forwarded_of_stopped
    step_going hrun

/-- What is in the stream was read in order, or was not read; until the reader is gone, that is
still in it. -/
theorem exists_unread_of_run (hrun : c.run events = some c') :
    ∃ unread, c.buffer ++ c.forwards events = c.yields events ++ unread ∧
      (¬ c'.readerGone = true → unread = c'.buffer) :=
  exists_rest_of_run (·.readerGone = true) step_gone yielded_of_gone step_present hrun

/-! ### A stream at any time -/

/-- What is known of a stream after some events whose polls delivered the given batches:
* the reader has got messages of the batches from the front;
* so has the stream, and until the reader is gone, what was not read is still in it;
* if the next poll may be sent, all batches have been put into the stream;
* if a poll ends in a fault, the consumer backs off and nothing else changes; it goes on to the next
  poll, unless the channel was closed. -/
structure IsInOrder (start : Consumer) (events : List ConsumerEvent) (c : Consumer)
    (batches : List (List Bytes)) : Prop where
  yields : start.yields events <+: batches.flatten
  forwards : start.forwards events <+: batches.flatten
  unread : c.readerGone = false → start.forwards events = start.yields events ++ c.buffer
  polls : ∀ c', c.step .poll = some c' → start.forwards events = batches.flatten
  fails : ∀ reply c', Fails reply → c.step (.reply reply) = some c' →
    c' = { c with poller := c.poller.backOff, phase := .waiting } ∧
      (c.isShutdown = false → ∃ c'', c'.run [.wake, .poll] = some c'')

/-- **Streams are in order.**  Whatever happens to the consumer of a queue, as long as the rows of
each reply have distinct numbers, every reply delivers one batch, and the stream is in the order of
the batches. -/
theorem streams_are_in_order {channel : DatabaseChannel} {queue : String}
    (hrun : (start channel queue).run events = some c)
    (hnumbered : ∀ reply, .reply reply ∈ events → IsNumbered reply) :
    ∃ batches, List.Forall₂ Delivers (replies events) batches ∧
      (start channel queue).IsInOrder events c batches := by
  obtain ⟨batches, hbatches⟩ := exists_batches hnumbered
  obtain ⟨left, hleft, hend⟩ := exists_left_of_run hrun
  obtain ⟨unread, hunread, hread⟩ := exists_unread_of_run hrun
  have hclaims : (start channel queue).claims events = batches.flatten :=
    claims_eq_flatten hrun hbatches
  -- A consumer starts with nothing outside the stream and nothing in it.
  have hleft : batches.flatten = (start channel queue).forwards events ++ left :=
    hclaims.symm.trans hleft
  have hunread : (start channel queue).forwards events =
      (start channel queue).yields events ++ unread :=
    hunread
  refine ⟨batches, hbatches, ?_⟩
  exact {
    forwards := ⟨left, hleft.symm⟩
    yields := by
      rw [hleft, hunread, List.append_assoc]
      exact List.prefix_append _ _
    unread := fun hpresent => by
      rw [hunread, hread (by rw [hpresent]; decide)]
    polls := fun c' h => by
      obtain ⟨⟨hphase, _⟩, _⟩ := Option.ite_none_right_eq_some.mp h
      obtain rfl : left = [] := by
        rw [hend (by rw [hphase]; nofun), held, hphase]
      rw [hleft, List.append_nil]
    fails := fun reply c' hfails h => by
      obtain ⟨_, h⟩ := Option.ite_none_right_eq_some.mp h
      obtain ⟨detail, hread⟩ := hfails.messagesOf_eq
      have habsorb : c.poller.absorb reply = (.error detail, c.poller) := by
        rw [Poller.absorb, hread]
      rw [habsorb] at h
      obtain rfl := Option.some.inj h
      refine ⟨rfl, fun hopen => ?_⟩
      simp [run, step, hopen] }

/-- A channel whose streams hold two messages. -/
def pairChannel : DatabaseChannel :=
  .ofBindings "notifications" [⟨"notifications", "#"⟩] { batchSize := 2 }

/-- A reply with two messages, of which the later one comes first. -/
def twoMessages : Reply :=
  .rows ([(2, [50]), (1, [49])].map rowOf)

/-- The rest of a run in which the second poll ends in a fault, and the third one finds one more
message.  The reader takes the first message only. -/
def hesitantRest : List ConsumerEvent :=
  [.forward, .forward, .batchDone, .read, .wake, .poll, .reply (.failure "57014"), .wake, .poll,
    .reply (oneMessage 3 [51]), .forward, .batchDone, .wake]

/-- A run whose first poll finds two messages. -/
def hesitant : List ConsumerEvent :=
  .poll :: .reply twoMessages :: hesitantRest

/-- The consumer at the end of that run. -/
def hesitantConsumer : Consumer :=
  ⟨.start "notifications" { batchSize := 2 }, .polling, 2, [[50], [51]], false, false⟩

theorem run_hesitant :
    (start pairChannel "notifications").run hesitant = some hesitantConsumer := by
  have horder : [((1 : Int), ([49] : Bytes)), (2, [50])].Pairwise fun a b => a.1 < b.1 := by decide
  have hread : Poller.messagesOf twoMessages = .ok [[49], [50]] :=
    messagesOf_of_found (fun _ => Reply.noConfusion) rfl (.swap _ _ _) horder
  have hreply : ({ start pairChannel "notifications" with phase := .awaiting } : Consumer).step
      (.reply twoMessages) =
        some { start pairChannel "notifications" with phase := .forwarding [[49], [50]] } := by
    rw [step, if_pos rfl, Poller.absorb, hread]
    rfl
  exact run_cons.mpr ⟨_, rfl, run_cons.mpr ⟨_, hreply, by decide +kernel⟩⟩

/-- All messages found so far are in the stream, of which the reader has got the first one. -/
theorem hesitant_is_in_order :
    (start pairChannel "notifications").run hesitant = some hesitantConsumer ∧
      (∀ reply, .reply reply ∈ hesitant → IsNumbered reply) ∧
      (start pairChannel "notifications").forwards hesitant = [[49], [50], [51]] ∧
      (start pairChannel "notifications").yields hesitant = [[49]] := by
  have hnumbered : ∀ reply, .reply reply ∈ hesitant → IsNumbered reply := by
    intro reply hreply
    have hcases : reply = twoMessages ∨ reply = .failure "57014" ∨ reply = oneMessage 3 [51] := by
      simpa [hesitant, hesitantRest] using hreply
    rcases hcases with rfl | rfl | rfl
    · exact isNumbered_of_found _ rfl (by decide)
    · exact isNumbered_of_found [] rfl (by decide)
    · exact isNumbered_of_found [(3, [51])] rfl (by decide)
  obtain ⟨batches, hbatches, hinOrder⟩ := streams_are_in_order run_hesitant hnumbered
  have hexpected : List.Forall₂ Delivers (replies hesitant) [[[49], [50]], [], [[51]]] :=
    .cons (.found [(1, [49]), (2, [50])] rfl (.swap _ _ _) (by decide))
      (.cons (.failed (.failure "57014"))
        (.cons (.found [(3, [51])] rfl (.refl _) (by decide)) .nil))
  obtain rfl : batches = [[[49], [50]], [], [[51]]] :=
    Relator.RightUnique.forall₂ (fun _ _ _ h h' => h.unique h') hbatches hexpected
  have hforwards := hinOrder.polls _ rfl
  refine ⟨run_hesitant, hnumbered, hforwards, ?_⟩
  have hunread := hinOrder.unread rfl
  rw [hforwards] at hunread
  exact (List.append_cancel_right hunread).symm

end Reminders.Consumer
