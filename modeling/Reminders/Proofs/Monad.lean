/-!
# Monads — steps one after another

A sequence of steps that may fail succeeds if each step succeeds with the value that the next one
takes.  Steps that check rules in turn report the first one that does not hold.  A step that works
on a state hands its value and the new state on to the next one.
-/

namespace Reminders

/-! ### Steps that may fail -/

section Except

variable {ε ε' α β : Type}

theorem bind_eq_ok {x : Except ε α} {f : α → Except ε β} {b : β} :
    (x >>= f) = .ok b ↔ ∃ a, x = .ok a ∧ f a = .ok b := by
  cases x <;> simp [bind, Except.bind]

/-- A step that returns nothing precedes the others. -/
theorem then_eq_ok {x : Except ε Unit} {f : Unit → Except ε β} {b : β} :
    (x >>= f) = .ok b ↔ x = .ok () ∧ f () = .ok b := by
  rw [bind_eq_ok]
  exact ⟨fun ⟨(), hx, hf⟩ => ⟨hx, hf⟩, fun ⟨hx, hf⟩ => ⟨(), hx, hf⟩⟩

theorem pure_eq_ok {a b : α} : (pure a : Except ε α) = .ok b ↔ a = b := by
  simp [pure, Except.pure]

theorem throw_eq_error {e : ε} : (throw e : Except ε α) = .error e := rfl

theorem error_bind {e : ε} {f : α → Except ε β} : (.error e >>= f) = .error e := rfl

/-- A guard lets the other steps go on if there is nothing against it. -/
theorem ite_error_eq_ok {p : Prop} [Decidable p] {e : ε} {x : Except ε α} {a : α} :
    (if p then .error e else x) = .ok a ↔ ¬ p ∧ x = .ok a := by
  split
  · next hp => exact iff_of_false nofun fun h => h.1 hp
  · next hp => exact (and_iff_right hp).symm

theorem mapError_map_eq_ok {x : Except ε α} {f : α → β} {g : ε → ε'} {b : β} :
    (x.map f).mapError g = .ok b ↔ ∃ a, x = .ok a ∧ f a = b := by
  constructor
  · intro h
    cases x with
    | error error => cases h
    | ok a => exact ⟨a, rfl, Except.ok.inj h⟩
  · rintro ⟨a, rfl, rfl⟩
    rfl

theorem mapError_map_eq_error {x : Except ε α} {f : α → β} {g : ε → ε'} {e : ε'} :
    (x.map f).mapError g = .error e ↔ ∃ error, x = .error error ∧ g error = e := by
  constructor
  · intro h
    cases x with
    | error error => exact ⟨error, rfl, Except.error.inj h⟩
    | ok a => cases h
  · rintro ⟨error, rfl, rfl⟩
    rfl

end Except

/-! ### Rules checked in turn -/

section Checks

variable {ρ ε α β : Type} {holds : ρ → Prop} {error : ρ → ε} {rules rules' : List ρ}
  {x : Except ε α}

/-- The step checks some rules in turn: it fails with the error of the first rule that does not
hold, and succeeds if all of them hold. -/
inductive Checks (holds : ρ → Prop) (error : ρ → ε) : List ρ → Except ε α → Prop where
  | passed (a : α) : Checks holds error [] (.ok a)
  | violated {rule : ρ} {rules : List ρ} (h : ¬ holds rule) :
      Checks holds error (rule :: rules) (.error (error rule))
  | obeyed {rule : ρ} {rules : List ρ} {x : Except ε α} (h : holds rule)
      (hrest : Checks holds error rules x) : Checks holds error (rule :: rules) x

namespace Checks

/-- One test checks one rule. -/
theorem of_ite (rule : ρ) {p : Prop} [Decidable p] (h : p ↔ holds rule) (a : α) :
    Checks holds error [rule] (if p then .ok a else .error (error rule)) := by
  split
  · next hp => exact .obeyed (h.mp hp) (.passed a)
  · next hp => exact .violated fun hrule => hp (h.mpr hrule)

/-- The next step checks its rules once those of the step before it hold. -/
theorem bind {f : α → Except ε β} (h : Checks holds error rules x)
    (hf : ∀ a, x = .ok a → Checks holds error rules' (f a)) :
    Checks holds error (rules ++ rules') (x >>= f) := by
  induction h with
  | passed a => exact hf a rfl
  | violated h => exact .violated h
  | obeyed h _ ih => exact .obeyed h (ih hf)

theorem ok_iff (h : Checks holds error rules x) :
    (∃ a, x = .ok a) ↔ ∀ rule ∈ rules, holds rule := by
  induction h with
  | passed a => exact iff_of_true ⟨a, rfl⟩ (List.forall_mem_nil _)
  | violated h => exact iff_of_false nofun fun hall => h (List.forall_mem_cons.mp hall).1
  | obeyed h _ ih => rw [ih, List.forall_mem_cons, and_iff_right h]

theorem error_iff (h : Checks holds error rules x) {e : ε} :
    x = .error e ↔ ∃ before rule after, rules = before ++ rule :: after ∧
      (∀ earlier ∈ before, holds earlier) ∧ ¬ holds rule ∧ e = error rule := by
  induction h with
  | passed a =>
      refine iff_of_false nofun ?_
      rintro ⟨before, rule, after, hrules, _⟩
      exact List.append_ne_nil_of_right_ne_nil before (List.cons_ne_nil rule after) hrules.symm
  | @violated rule rules h =>
      constructor
      · rintro ⟨⟩
        exact ⟨[], rule, rules, rfl, List.forall_mem_nil _, h, rfl⟩
      · rintro ⟨before, rule', after, hrules, hbefore, _, rfl⟩
        cases before with
        | nil => rw [(List.cons.inj hrules).1]
        | cons first before =>
            obtain ⟨rfl, _⟩ := List.cons.inj hrules
            exact absurd (hbefore rule List.mem_cons_self) h
  | @obeyed rule rules x h _ ih =>
      rw [ih]
      constructor
      · rintro ⟨before, rule', after, rfl, hbefore, hviolated⟩
        exact ⟨rule :: before, rule', after, rfl, List.forall_mem_cons.mpr ⟨h, hbefore⟩, hviolated⟩
      · rintro ⟨before, rule', after, hrules, hbefore, hviolated⟩
        cases before with
        | nil =>
            obtain ⟨rfl, _⟩ := List.cons.inj hrules
            exact absurd h hviolated.1
        | cons first before =>
            obtain ⟨_, rfl⟩ := List.cons.inj hrules
            exact ⟨before, rule', after, rfl, (List.forall_mem_cons.mp hbefore).2, hviolated⟩

end Checks

end Checks

/-! ### Steps on a state -/

section State

variable {ρ σ α β : Type} {m : Type → Type} [Monad m] [LawfulMonad m] {a : α} {r r' : ρ} {s s' : σ}

/-- The next step goes on with the value and the state that a step leaves. -/
theorem bind_of_eq_pure {x : StateT σ m α} {f : α → StateT σ m β} (h : x s = pure (a, s')) :
    (x >>= f) s = f a s' := by
  have hbind : (x >>= f) s = x s >>= fun p => f p.1 p.2 := rfl
  rw [hbind, h, pure_bind]

/-- The same for steps on two states. -/
theorem bind_of_eq_pure₂ {x : StateT ρ (StateT σ m) α} {f : α → StateT ρ (StateT σ m) β}
    (h : x r s = pure ((a, r'), s')) : (x >>= f) r s = f a r' s' :=
  bind_of_eq_pure (x := x r) (f := fun p => f p.1 p.2) h

end State

end Reminders
