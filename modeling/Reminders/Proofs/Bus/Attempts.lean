import Reminders.Bus.Memory

/-!
# Bus — attempts to publish

Whatever a channel does with a message, the attempt to publish it can be observed: the key, the
message and the answer of the channel.  A *logged* channel does what the given channel does and
keeps a log of all attempts.
-/

namespace Reminders

/-- An attempt to publish a message. -/
structure Attempt where
  key : String
  body : Bytes
  result : Except ChannelError Unit

namespace NotificationChannel

variable {σ : Type}

/-- The channel with a log of the attempts to publish. -/
def logged (c : NotificationChannel (StateM σ)) :
    NotificationChannel (StateT (List Attempt) (StateM σ)) where
  publish key body := do
    let result ← StateT.lift (c.publish key body)
    modify (· ++ [⟨key, body, result⟩])
    return result
  consume queue := StateT.lift (c.consume queue)
  close := StateT.lift c.close

theorem logged_publish (c : NotificationChannel (StateM σ)) (key : String) (body : Bytes)
    (log : List Attempt) (w : σ) :
    c.logged.publish key body log w =
      (((c.publish key body w).1, log ++ [⟨key, body, (c.publish key body w).1⟩]),
        (c.publish key body w).2) :=
  rfl

/-- As long as the invariant holds, messages get only answers of this kind and keep it. -/
def Answers (c : NotificationChannel (StateM σ)) (inv : σ → Prop)
    (answer : Except ChannelError Unit → Prop) : Prop :=
  ∀ key body w, inv w → answer (c.publish key body w).1 ∧ inv (c.publish key body w).2

end NotificationChannel

/-- A channel in memory accepts every message while it is open. -/
theorem MemoryChannel.channel_answers :
    MemoryChannel.channel.Answers (fun c => c.isClosed = false) (· = .ok ()) := by
  intro key body c hopen
  have hpublish : c.publish key body = (.ok (), { c with
      queues := (route c.bindings key).foldl (fun m queue => m.modify queue (deliver body))
        c.queues }) :=
    if_neg (by rw [hopen]; decide)
  show (c.publish key body).1 = .ok () ∧ (c.publish key body).2.isClosed = false
  rw [hpublish]
  exact ⟨rfl, hopen⟩

end Reminders
