import Mathlib.Data.List.Forall2
import Mathlib.Data.List.ReduceOption
import Reminders.Proofs.Bus.Attempts
import Reminders.Proofs.Loop
import Reminders.Proofs.Monad
import Reminders.Sender.Handle

/-!
# Sender — what becomes of each message

A sender answers each message by itself: a notification by one attempt to publish its status, and a
message that is no notification by none.  What came before does not matter, and nothing that the
channel of the statuses does stops the sender.

* `process_logged`: the attempts that a sender makes for the messages it takes, and its report.
* `process_acknowledges`: the case of notifications whose statuses are all accepted.
-/

namespace Reminders.Sender

variable {σ : Type}

/-- The sender with a log of its attempts to publish a status. -/
def logged (s : Sender (StateM σ)) : Sender (StateT (List Attempt) (StateM σ)) where
  statuses := s.statuses.logged
  clock := StateT.lift s.clock

/-- The clock of a sender keeps the invariant, and its channel gives only answers of this kind. -/
structure Answers (s : Sender (StateM σ)) (inv : σ → Prop)
    (answer : Except ChannelError Unit → Prop) : Prop where
  statuses : s.statuses.Answers inv answer
  clock : ∀ w, inv w → inv (s.clock w).2

/-- The attempt to publish that a notification was delivered. -/
def acknowledging (n : Notification) (now : Instant) (result : Except ChannelError Unit) :
    Attempt where
  key := DeliveryStatus.routingKey
  body := (DeliveryStatus.delivered n now).encode
  result := result

/-- The attempt, if any, that a message leads to. -/
def Meets (answer : Except ChannelError Unit → Prop) (body : Bytes) (attempt : Option Attempt) :
    Prop :=
  match Notification.decode body with
  | .error _ => attempt = none
  | .ok n => ∃ now result, answer result ∧ attempt = some (acknowledging n now result)

/-- The report with one more message, which led to this attempt. -/
def tally (r : SenderReport) : Option Attempt → SenderReport
  | none => { r with received := r.received + 1, dropped := r.dropped + 1 }
  | some ⟨_, _, .ok ()⟩ => { r with received := r.received + 1, acknowledged := r.acknowledged + 1 }
  | some ⟨_, _, .error _⟩ => { r with received := r.received + 1, failed := r.failed + 1 }

variable {s : Sender (StateM σ)} {inv : σ → Prop} {answer : Except ChannelError Unit → Prop}

theorem count_undecodable {body : Bytes} {fault : Json.Fault}
    (h : Notification.decode body = .error fault) (r : SenderReport) (log : List Attempt) (w : σ) :
    s.logged.count body r log w = ((((), tally r none), log), w) := by
  simp only [count, handle, h]
  rfl

theorem handle_notification {body : Bytes} {n : Notification} (h : Notification.decode body = .ok n)
    (log : List Attempt) {w w₁ w₂ : σ} {now : Instant} {result : Except ChannelError Unit}
    (hclock : s.clock w = (now, w₁))
    (hpublish : s.statuses.publish DeliveryStatus.routingKey
      (DeliveryStatus.delivered n now).encode w₁ = (result, w₂)) :
    s.logged.handle body log w =
      (((result.map fun _ => DeliveryStatus.delivered n now).mapError .unpublished,
        log ++ [acknowledging n now result]), w₂) := by
  have hclock' : s.logged.clock log w = ((now, log), w₁) := by
    show (((s.clock w).1, log), (s.clock w).2) = _
    rw [hclock]
  have hpublish' : s.logged.statuses.publish DeliveryStatus.routingKey
      (DeliveryStatus.delivered n now).encode log w₁ =
        ((result, log ++ [acknowledging n now result]), w₂) := by
    rw [logged, NotificationChannel.logged_publish, hpublish]
    rfl
  simp only [handle, h]
  refine (bind_of_eq_pure₂ hclock').trans ((bind_of_eq_pure₂ hpublish').trans ?_)
  cases result with
  | ok _ => rfl
  | error e => rfl

theorem count_notification {body : Bytes} {n : Notification} (h : Notification.decode body = .ok n)
    (r : SenderReport) (log : List Attempt) {w w₁ w₂ : σ} {now : Instant}
    {result : Except ChannelError Unit} (hclock : s.clock w = (now, w₁))
    (hpublish : s.statuses.publish DeliveryStatus.routingKey
      (DeliveryStatus.delivered n now).encode w₁ = (result, w₂)) :
    s.logged.count body r log w =
      ((((), tally r (some (acknowledging n now result))), log ++ [acknowledging n now result]),
        w₂) := by
  have hcount : s.logged.count body r log w =
      ((((), r.add (s.logged.handle body log w).1.1), (s.logged.handle body log w).1.2),
        (s.logged.handle body log w).2) :=
    rfl
  rw [hcount, handle_notification h log hclock hpublish]
  cases result with
  | ok _ => rfl
  | error e => rfl

/-- One message is counted. -/
theorem count_logged (hs : s.Answers inv answer) (body : Bytes) (r : SenderReport)
    (log : List Attempt) {w : σ} (hw : inv w) :
    ∃ attempt w', Meets answer body attempt ∧ inv w' ∧
      s.logged.count body r log w = ((((), tally r attempt), log ++ attempt.toList), w') := by
  cases hdecode : Notification.decode body with
  | error fault =>
      refine ⟨none, w, by simp only [Meets, hdecode], hw, ?_⟩
      rw [count_undecodable hdecode, Option.toList_none, List.append_nil]
  | ok n =>
      rcases hclock : s.clock w with ⟨now, w₁⟩
      have hw₁ : inv w₁ := by simpa only [hclock] using hs.clock w hw
      rcases hpublish : s.statuses.publish DeliveryStatus.routingKey
        (DeliveryStatus.delivered n now).encode w₁ with ⟨result, w₂⟩
      obtain ⟨hresult, hw₂⟩ : answer result ∧ inv w₂ := by
        simpa only [hpublish] using hs.statuses DeliveryStatus.routingKey
          (DeliveryStatus.delivered n now).encode w₁ hw₁
      refine ⟨some (acknowledging n now result), w₂, ?_, hw₂, ?_⟩
      · simp only [Meets, hdecode]
        exact ⟨now, result, hresult, rfl⟩
      · rw [count_notification hdecode r log hclock hpublish, Option.toList_some]

/-- Some messages are counted, each on its own. -/
theorem forM_count_logged (hs : s.Answers inv answer) (bodies : List Bytes) (r : SenderReport)
    (log : List Attempt) {w : σ} (hw : inv w) :
    ∃ attempts w', List.Forall₂ (Meets answer) bodies attempts ∧ inv w' ∧
      bodies.forM s.logged.count r log w =
        ((((), attempts.foldl tally r), log ++ attempts.reduceOption), w') := by
  induction bodies generalizing r log w with
  | nil => exact ⟨[], w, .nil, hw, by rw [List.reduceOption_nil, List.append_nil]; rfl⟩
  | cons body bodies ih =>
      obtain ⟨attempt, w₁, hmeets, hw₁, hcount⟩ := count_logged hs body r log hw
      obtain ⟨attempts, w₂, hrest, hw₂, hforM⟩ := ih (tally r attempt) (log ++ attempt.toList) hw₁
      refine ⟨attempt :: attempts, w₂, .cons hmeets hrest, hw₂, ?_⟩
      have hcons : (body :: bodies).forM s.logged.count r =
          s.logged.count body r >>= fun p => bodies.forM s.logged.count p.2 :=
        rfl
      rw [hcons, bind_of_eq_pure₂ hcount, hforM]
      -- Only an attempt that was made is in the log.
      cases attempt with
      | none => rw [Option.toList_none, List.append_nil, List.reduceOption_cons_of_none]; rfl
      | some a =>
          rw [Option.toList_some, List.append_assoc, List.reduceOption_cons_of_some]
          rfl

/-- **Each message is answered by itself.**  A sender makes one attempt for each notification that
it takes and none for any other message, in order, and its report counts them. -/
theorem process_logged (hs : s.Answers inv answer) {l l' : Loop Bytes}
    {events : List (LoopEvent Bytes)} (hrun : l.run events = some l') (log : List Attempt) {w : σ}
    (hw : inv w) :
    ∃ attempts w', List.Forall₂ (Meets answer) (Loop.tasks events) attempts ∧ inv w' ∧
      s.logged.process l events log w =
        ((attempts.foldl tally {}, log ++ attempts.reduceOption), w') := by
  obtain ⟨attempts, w', hmeets, hw', hforM⟩ := forM_count_logged hs (Loop.tasks events) {} log hw
  refine ⟨attempts, w', hmeets, hw', ?_⟩
  have hprocess : s.logged.process l events log w =
      ((((Loop.tasks events).forM s.logged.count {} log w).1.1.2,
        ((Loop.tasks events).forM s.logged.count {} log w).1.2),
        ((Loop.tasks events).forM s.logged.count {} log w).2) := by
    rw [process, Loop.perform_of_run _ hrun]
    rfl
  rw [hprocess, hforM]

/-! ### A channel that accepts every status -/

/-- The attempt succeeded and says that the notification was delivered. -/
def Acknowledges (n : Notification) (attempt : Attempt) : Prop :=
  ∃ now, attempt = acknowledging n now (.ok ())

/-- If the messages are notifications and every status is accepted, each notification is
acknowledged once. -/
theorem acknowledges_of_meets {bodies : List Bytes} {ns : List Notification}
    {attempts : List (Option Attempt)}
    (hdecode : List.Forall₂ (fun body n => Notification.decode body = .ok n) bodies ns)
    (hmeets : List.Forall₂ (Meets (· = .ok ())) bodies attempts) (r : SenderReport) :
    List.Forall₂ Acknowledges ns attempts.reduceOption ∧
      attempts.foldl tally r = { r with
        received := r.received + ns.length
        acknowledged := r.acknowledged + ns.length } := by
  induction hmeets generalizing ns r with
  | nil =>
      cases hdecode
      exact ⟨.nil, rfl⟩
  | cons hmeets _ ih =>
      cases hdecode with
      | @cons _ n _ ns hdecode hrest =>
          simp only [Meets, hdecode] at hmeets
          obtain ⟨now, result, rfl, rfl⟩ := hmeets
          obtain ⟨hacknowledges, htally⟩ := ih hrest (tally r (some (acknowledging n now (.ok ()))))
          rw [List.reduceOption_cons_of_some, List.foldl_cons, htally]
          refine ⟨.cons ⟨now, rfl⟩ hacknowledges, ?_⟩
          simp only [tally, acknowledging, List.length_cons, SenderReport.mk.injEq, and_self,
            and_true]
          omega

/-- **Every notification is acknowledged.**  A sender that takes notifications only, and whose
statuses are all accepted, acknowledges each notification once, in order. -/
theorem process_acknowledges (hs : s.Answers inv (· = .ok ())) {l l' : Loop Bytes}
    {events : List (LoopEvent Bytes)} (hrun : l.run events = some l') {ns : List Notification}
    (hdecode : List.Forall₂ (fun body n => Notification.decode body = .ok n) (Loop.tasks events) ns)
    (log : List Attempt) {w : σ} (hw : inv w) :
    ∃ attempts w', List.Forall₂ Acknowledges ns attempts ∧ inv w' ∧
      s.logged.process l events log w =
        ((⟨ns.length, ns.length, 0, 0⟩, log ++ attempts), w') := by
  obtain ⟨attempts, w', hmeets, hw', hprocess⟩ := process_logged hs hrun log hw
  obtain ⟨hacknowledges, htally⟩ := acknowledges_of_meets hdecode hmeets {}
  refine ⟨_, w', hacknowledges, hw', ?_⟩
  rw [hprocess, htally]
  simp only [Nat.zero_add]

end Reminders.Sender
