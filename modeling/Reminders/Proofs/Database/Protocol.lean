import Reminders.Store.Database

/-!
# Database — protocols of dialogues

A protocol says which statements may be sent in a state and how a statement and its reply change the
state.  A dialogue *keeps* a protocol if each statement it can send is allowed, whatever the replies
before were.

* `keeps_bind`: a dialogue keeps a protocol part by part.
* `run_bind`: and it runs part by part.
* `run_transaction_ok`: what a transaction returns if the peer lets it begin and commit.
* `keeps_transaction`: a transaction keeps a protocol if its work does and may be ended.
-/

namespace Reminders.Database

/-- The statement did not fail. -/
def Reply.Succeeds (reply : Reply) : Prop :=
  ∀ code, reply ≠ .failure code

theorem Reply.succeeds_rows (rs : List Row) : (Reply.rows rs).Succeeds :=
  fun _ => nofun

theorem Reply.succeeds_affected (n : Nat) : (Reply.affected n).Succeeds :=
  fun _ => nofun

theorem Reply.forall_iff {p : Reply → Prop} :
    (∀ reply, p reply) ↔
      (∀ code, p (.failure code)) ∧ ∀ reply : Reply, reply.Succeeds → p reply := by
  refine ⟨fun h => ⟨fun code => h _, fun reply _ => h reply⟩, fun ⟨hf, hs⟩ reply => ?_⟩
  cases reply with
  | failure code => exact hf code
  | rows rs => exact hs _ (succeeds_rows rs)
  | affected n => exact hs _ (succeeds_affected n)

/-- What may be sent in a state, and the state after a statement and its reply. -/
structure Protocol (σ : Type) where
  Allows : σ → Statement → Prop
  next : σ → Statement → Reply → σ

variable {σ ε α β : Type} {P : Protocol σ} {x : σ}

namespace Dialogue

/-- The dialogue keeps the protocol from a state on, and where it ends, the state and the value
satisfy `Q`. -/
def Keeps (P : Protocol σ) : Dialogue α → σ → (σ → α → Prop) → Prop
  | .done a, x, Q => Q x a
  | .ask s next, x, Q => P.Allows x s ∧ ∀ reply, (next reply).Keeps P (P.next x s reply) Q
  | .halt, _, _ => True

theorem keeps_send {s : Statement} {Q : σ → Reply → Prop} :
    (send s).Keeps P x Q ↔ P.Allows x s ∧ ∀ reply, Q (P.next x s reply) reply :=
  .rfl

theorem keeps_bind {d : Dialogue α} {f : α → Dialogue β} {Q : σ → β → Prop} :
    (d >>= f).Keeps P x Q ↔ d.Keeps P x fun y a => (f a).Keeps P y Q := by
  induction d generalizing x with
  | done a => exact .rfl
  | ask s next ih => exact and_congr_right fun _ => forall_congr' fun reply => ih reply
  | halt => exact .rfl

theorem Keeps.mono {d : Dialogue α} {Q R : σ → α → Prop} (h : d.Keeps P x Q)
    (hQ : ∀ y a, Q y a → R y a) : d.Keeps P x R := by
  induction d generalizing x with
  | done a => exact hQ _ _ h
  | ask s next ih => exact ⟨h.1, fun reply => ih reply (h.2 reply)⟩
  | halt => trivial

theorem run_send {τ : Type} {peer : Statement → StateM τ Reply} {s : Statement} {reply : Reply}
    {y y' : τ} (h : peer s y = (reply, y')) : (send s).run peer y = (some reply, y') := by
  show (some (peer s y).1, (peer s y).2) = _
  rw [h]

/-- A dialogue runs part by part. -/
theorem run_bind {τ : Type} (peer : Statement → StateM τ Reply) (d : Dialogue α)
    (f : α → Dialogue β) (y : τ) :
    (d >>= f).run peer y =
      match d.run peer y with
      | (some a, y') => (f a).run peer y'
      | (none, y') => (none, y') := by
  induction d generalizing y with
  | done a => rfl
  | ask s next ih => exact ih _ _
  | halt => rfl

theorem run_bind_of_some {τ : Type} {peer : Statement → StateM τ Reply} {d : Dialogue α}
    {f : α → Dialogue β} {a : α} {y y' : τ} (h : d.run peer y = (some a, y')) :
    (d >>= f).run peer y = (f a).run peer y' := by
  rw [run_bind, h]

theorem run_bind_of_none {τ : Type} {peer : Statement → StateM τ Reply} {d : Dialogue α}
    (f : α → Dialogue β) {y : τ} (h : (d.run peer y).1 = none) :
    ((d >>= f).run peer y).1 = none := by
  rw [run_bind]
  rcases hd : d.run peer y with ⟨_ | a, y'⟩
  · rfl
  · rw [hd] at h
    cases h

theorem run_map {τ : Type} (peer : Statement → StateM τ Reply) (f : α → β) (d : Dialogue α)
    (y : τ) : (f <$> d).run peer y = ((d.run peer y).1.map f, (d.run peer y).2) := by
  refine (run_bind peer d (fun a => pure (f a)) y).trans ?_
  rcases d.run peer y with ⟨_ | a, y'⟩ <;> rfl

/-! ### Transactions -/

/-- The end of a transaction whose work has returned. -/
def conclude (failed : String → ε) : Except ε α → Dialogue (Except ε α)
  | .error e => do
    let _ ← send .rollback
    return .error e
  | .ok a => do
    match ← send .commit with
    | .failure code =>
      let _ ← send .rollback
      return .error (failed code)
    | _ => return .ok a

theorem transaction_eq (failed : String → ε) (work : Dialogue (Except ε α)) :
    transaction failed work = send .begin >>= fun reply =>
      match reply with
      | .failure code => pure (.error (failed code))
      | _ => work >>= conclude failed := by
  refine congrArg (send .begin >>= ·) (funext fun reply => ?_)
  cases reply with
  | failure code => rfl
  | rows _ | affected _ =>
      -- What follows `BEGIN` depends on the reply only by whether it failed.
      refine congrArg (work >>= ·) (funext fun r => ?_)
      cases r with
      | error e => rfl
      | ok a =>
          refine congrArg (send .commit >>= ·) (funext fun reply => ?_)
          cases reply <;> rfl

/-- A transaction returns what its work returns if the peer lets it begin and commit. -/
theorem run_transaction_ok {τ : Type} {peer : Statement → StateM τ Reply} (failed : String → ε)
    {work : Dialogue (Except ε α)} {a : α} {began ended : Reply} {y y₁ y₂ y' : τ}
    (hbegin : peer .begin y = (began, y₁)) (hbegan : began.Succeeds)
    (hwork : work.run peer y₁ = (some (.ok a), y₂)) (hcommit : peer .commit y₂ = (ended, y'))
    (hended : ended.Succeeds) :
    (transaction failed work).run peer y = (some (.ok a), y') := by
  have hconclude : (conclude failed (.ok a)).run peer y₂ = (some (.ok a), y') := by
    rw [conclude, run_bind_of_some (run_send hcommit)]
    cases ended with
    | failure code => exact absurd rfl (hended code)
    | rows _ | affected _ => rfl
  rw [transaction_eq, run_bind_of_some (run_send hbegin)]
  cases began with
  | failure code => exact absurd rfl (hbegan code)
  | rows _ | affected _ => exact (run_bind_of_some hwork).trans hconclude

theorem keeps_conclude_error {failed : String → ε} {e : ε} {Q : σ → Except ε α → Prop} :
    (conclude failed (.error e)).Keeps P x Q ↔
      P.Allows x .rollback ∧ ∀ reply, Q (P.next x .rollback reply) (.error e) :=
  .rfl

theorem keeps_conclude_ok {failed : String → ε} {a : α} {Q : σ → Except ε α → Prop} :
    (conclude failed (.ok a)).Keeps P x Q ↔ P.Allows x .commit ∧
      (∀ code, P.Allows (P.next x .commit (.failure code)) .rollback ∧ ∀ reply,
        Q (P.next (P.next x .commit (.failure code)) .rollback reply) (.error (failed code))) ∧
      ∀ reply : Reply, reply.Succeeds → Q (P.next x .commit reply) (.ok a) := by
  refine and_congr_right fun _ => Reply.forall_iff.trans
    (and_congr_right fun _ => forall_congr' fun reply => ?_)
  refine forall_congr' fun h => ?_
  cases reply with
  | failure code => exact absurd rfl (h code)
  | rows _ | affected _ => exact .rfl

/-- The work starts in a state after `BEGIN`, and the transaction may be ended wherever the work
ends. -/
theorem keeps_transaction {failed : String → ε} {work : Dialogue (Except ε α)}
    {Q : σ → Except ε α → Prop} (hbegin : P.Allows x .begin)
    (hrefused : ∀ code, Q (P.next x .begin (.failure code)) (.error (failed code)))
    (hwork : ∀ reply : Reply, reply.Succeeds →
      work.Keeps P (P.next x .begin reply) fun y r => (conclude failed r).Keeps P y Q) :
    (transaction failed work).Keeps P x Q := by
  rw [transaction_eq, keeps_bind, keeps_send]
  refine ⟨hbegin, Reply.forall_iff.mpr ⟨hrefused, fun reply h => ?_⟩⟩
  cases reply with
  | failure code => exact absurd rfl (h code)
  | rows _ | affected _ => exact keeps_bind.mpr (hwork _ h)

/-! ### Dialogues that may fail -/

theorem keeps_run_bind {d : ExceptT ε Dialogue α} {f : α → ExceptT ε Dialogue β}
    {Q : σ → Except ε β → Prop} :
    (d >>= f).run.Keeps P x Q ↔ d.run.Keeps P x fun y r =>
      match r with
      | .ok a => (f a).run.Keeps P y Q
      | .error e => Q y (.error e) := by
  refine keeps_bind.trans (iff_of_eq (congrArg _ (funext fun y => funext fun r => ?_)))
  cases r <;> rfl

theorem keeps_run_lift {d : Dialogue α} {Q : σ → Except ε α → Prop} :
    (ExceptT.lift d : ExceptT ε Dialogue α).run.Keeps P x Q ↔ d.Keeps P x fun y a => Q y (.ok a) :=
  keeps_bind

end Dialogue

end Reminders.Database
