import Reminders.Loop

/-!
# Loop — what a loop carries out

* `of_step`: what each event requires and brings about.
* `perform_of_run`: a loop that goes through some events carries out the tasks that they take up, in
  order.
* `run_untilExhausted`: a loop that runs out of tasks comes to its end.
-/

namespace Reminders.Loop

variable {α : Type} {l l' : Loop α} {event : LoopEvent α} {events : List (LoopEvent α)}

theorem run_cons :
    l.run (event :: events) = some l' ↔ ∃ l₁, l.step event = some l₁ ∧ l₁.run events = some l' := by
  simp only [run, List.foldlM_cons, Option.bind_eq_bind, Option.bind_eq_some_iff]

/-- What each event requires and brings about. -/
theorem of_step (h : l.step event = some l') :
    match event with
    | .check => l.phase = .checking ∧
        l' = { l with phase := if l.isShutdown then .stopped else .waiting }
    | .take task => l.phase = .waiting ∧ l' = { l with phase := .working task }
    | .finish => ∃ task, l.phase = .working task ∧ l' = { l with phase := .checking }
    | .exhaust => l.phase = .waiting ∧ l' = { l with phase := .stopped }
    | .notice => l.phase = .waiting ∧ l.isRoused = true ∧ l' = { l with phase := .stopped }
    | .shutdown => l' = { l with isShutdown := true, isRoused := true }
    | .abandon => l' = { l with isRoused := true } := by
  cases event with
  | check | take task | exhaust =>
      simp only [step] at h
      split at h
      · next hphase => exact ⟨hphase, (Option.some.inj h).symm⟩
      · cases h
  | finish =>
      simp only [step] at h
      split at h
      · next task hphase => exact ⟨task, hphase, (Option.some.inj h).symm⟩
      · cases h
  | notice =>
      simp only [step] at h
      split at h
      · next hphase =>
          obtain ⟨hroused, h⟩ := Option.ite_none_right_eq_some.mp h
          exact ⟨hphase, hroused, (Option.some.inj h).symm⟩
      · cases h
  | shutdown | abandon => exact (Option.some.inj h).symm

theorem run_append {before after : List (LoopEvent α)} :
    l.run (before ++ after) = some l' ↔
      ∃ l₁, l.run before = some l₁ ∧ l₁.run after = some l' := by
  simp only [run, List.foldlM_append, Option.bind_eq_bind, Option.bind_eq_some_iff]

theorem tasks_cons_of_none (h : taken event = none) (events : List (LoopEvent α)) :
    tasks (event :: events) = tasks events :=
  List.filterMap_cons_none h

theorem tasks_cons_take (task : α) (events : List (LoopEvent α)) :
    tasks (.take task :: events) = task :: tasks events :=
  List.filterMap_cons_some rfl

theorem tasks_cons (event : LoopEvent α) (events : List (LoopEvent α)) :
    tasks (event :: events) = (taken event).toList ++ tasks events := by
  cases h : taken event with
  | none => exact tasks_cons_of_none h events
  | some task => exact List.filterMap_cons_some h

theorem tasks_append (before after : List (LoopEvent α)) :
    tasks (before ++ after) = tasks before ++ tasks after :=
  List.filterMap_append

/-- A loop that goes through some events carries out their tasks in order. -/
theorem perform_of_run {m : Type → Type} [Monad m] [LawfulMonad m] (work : α → m Unit)
    (h : l.run events = some l') : l.perform work events = do
      (tasks events).forM work
      return l' := by
  induction events generalizing l with
  | nil =>
      obtain rfl : l = l' := Option.some.inj h
      simp [perform, tasks]
  | cons event events ih =>
      obtain ⟨l₁, hstep, hrun⟩ := run_cons.mp h
      simp only [perform, hstep, ih hrun]
      cases event with
      | take task => simp [tasks_cons_take]
      | check | finish | exhaust | notice | shutdown | abandon =>
          rw [tasks_cons_of_none rfl]

/-! ### Running out of tasks -/

/-- The events of a loop that waits, gets these tasks and then learns that there are no more. -/
def untilExhausted : List α → List (LoopEvent α)
  | [] => [.exhaust]
  | task :: tasks => .take task :: .finish :: .check :: untilExhausted tasks

theorem course_exhaust (tasks : List α) :
    course tasks .exhaust = .check :: untilExhausted tasks := by
  have hwork : (tasks.flatMap fun task => [.take task, .finish, .check]) ++ [.exhaust] =
      untilExhausted tasks := by
    induction tasks with
    | nil => rfl
    | cons task tasks ih => simp [untilExhausted, ← ih]
  rw [← hwork]
  rfl

theorem tasks_untilExhausted (tasks : List α) : Loop.tasks (untilExhausted tasks) = tasks := by
  induction tasks with
  | nil => rfl
  | cons task tasks ih =>
      rw [untilExhausted, tasks_cons_take, tasks_cons_of_none rfl, tasks_cons_of_none rfl, ih]

/-- A loop that runs out of tasks comes to its end. -/
theorem run_untilExhausted (tasks : List α) :
    (⟨.waiting, false, false⟩ : Loop α).run (untilExhausted tasks) =
      some ⟨.stopped, false, false⟩ := by
  induction tasks with
  | nil => rfl
  | cons task tasks ih =>
      exact run_cons.mpr ⟨_, rfl, run_cons.mpr ⟨_, rfl, run_cons.mpr ⟨_, rfl, ih⟩⟩⟩

end Reminders.Loop
