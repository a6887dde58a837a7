import Mathlib.Data.List.Nodup
import Reminders.Proofs.Database.Protocol

/-!
# Database — transcripts

The *transcript* of a dialogue is what it says to a peer and what it hears from it: a list of turns,
each of which is a statement with the reply to it.

Much work is a row of *gates*: statements that are sent one after another, each of which lets the
work go on or ends it with an error, as the reply to it demands.

* `says_run`: a dialogue that runs against a peer says its transcript.
* `Course`: how far a row of gates is passed, and with which outcome.
* `Course.sent_iff`, `Course.ok_iff`, `Course.error_iff`: the transcript of distinct gates tells
  which of them were reached and what became of the work.
-/

namespace Reminders.Database

variable {σ ε α β : Type}

/-! ### Transcripts -/

/-- A statement and the reply to it. -/
structure Turn where
  statement : Statement
  reply : Reply

/-- What was said and heard, first turn first. -/
abbrev Transcript := List Turn

namespace Transcript

variable {talk : Transcript} {s : Statement}

/-- The statements, in the order in which they were sent. -/
def sent (talk : Transcript) : List Statement :=
  talk.map Turn.statement

/-- The statement was sent and did not fail. -/
def Acknowledged (talk : Transcript) (s : Statement) : Prop :=
  ∃ reply : Reply, ⟨s, reply⟩ ∈ talk ∧ reply.Succeeds

/-- The statement was sent and returned these rows. -/
def Found (talk : Transcript) (s : Statement) (rows : List Row) : Prop :=
  ∃ reply : Reply, ⟨s, reply⟩ ∈ talk ∧ reply.Succeeds ∧ reply.found = rows

/-- The statement was sent and failed with this code. -/
def Failed (talk : Transcript) (s : Statement) (code : String) : Prop :=
  ⟨s, .failure code⟩ ∈ talk

theorem mem_sent : s ∈ talk.sent ↔ ∃ reply, ⟨s, reply⟩ ∈ talk := by
  simp only [sent, List.mem_map]
  constructor
  · rintro ⟨⟨_, reply⟩, hmem, rfl⟩
    exact ⟨reply, hmem⟩
  · rintro ⟨reply, hmem⟩
    exact ⟨⟨s, reply⟩, hmem, rfl⟩

end Transcript

namespace Dialogue

/-- What the dialogue says to the peer and hears from it. -/
def transcript (peer : Statement → StateM σ Reply) : Dialogue α → σ → Transcript
  | .done _, _ => []
  | .ask s next, w => ⟨s, (peer s w).1⟩ :: transcript peer (next (peer s w).1) (peer s w).2
  | .halt, _ => []

/-- With the replies of this transcript the dialogue says all of it and then ends, with a value or
without one. -/
inductive Says : Dialogue α → Transcript → Option α → Prop where
  | done (a : α) : Says (.done a) [] (some a)
  | ask {s : Statement} {next : Reply → Dialogue α} {talk : Transcript} {r : Option α}
      (reply : Reply) (h : Says (next reply) talk r) : Says (.ask s next) (⟨s, reply⟩ :: talk) r
  | halt : Says .halt [] none

theorem says_run (peer : Statement → StateM σ Reply) (d : Dialogue α) (w : σ) :
    d.Says (d.transcript peer w) (d.run peer w).1 := by
  induction d generalizing w with
  | done a => exact .done a
  | ask s next ih => exact .ask _ (ih _ _)
  | halt => exact .halt

end Dialogue

/-! ### Gates -/

/-- A statement on which it depends whether some work goes on. -/
structure Gate (ε : Type) where
  statement : Statement
  /-- The error with which the work ends if the statement fails. -/
  failed : String → ε
  /-- The error with which the work ends if the statement returns these rows; if there is none, the
  work goes on. -/
  refused : List Row → Option ε

namespace Gate

variable {g : Gate ε} {talk : Transcript} {s : Statement} {reply : Reply} {e : ε} {v : Option ε}

/-- The error with which the work ends at this reply. -/
def verdict (g : Gate ε) : Reply → Option ε
  | .failure code => some (g.failed code)
  | reply => g.refused reply.found

/-- The statement of the gate was sent and the reply led to this verdict. -/
def Judged (g : Gate ε) (talk : Transcript) (v : Option ε) : Prop :=
  ∃ reply, ⟨g.statement, reply⟩ ∈ talk ∧ g.verdict reply = v

theorem verdict_of_succeeds (h : reply.Succeeds) : g.verdict reply = g.refused reply.found := by
  cases reply with
  | failure code => exact absurd rfl (h code)
  | rows _ | affected _ => rfl

/-- A gate is passed if its statement does not fail and its rows are not refused. -/
theorem judged_none_iff :
    g.Judged talk none ↔ ∃ rows, g.refused rows = none ∧ talk.Found g.statement rows := by
  constructor
  · rintro ⟨reply, hmem, hverdict⟩
    cases reply with
    | failure code => cases hverdict
    | rows rs => exact ⟨rs, hverdict, _, hmem, Reply.succeeds_rows rs, rfl⟩
    | affected n => exact ⟨[], hverdict, _, hmem, Reply.succeeds_affected n, rfl⟩
  · rintro ⟨_, hrows, reply, hmem, hreply, rfl⟩
    exact ⟨reply, hmem, (verdict_of_succeeds hreply).trans hrows⟩

/-- A gate that refuses no rows is passed once its statement is acknowledged. -/
theorem judged_none_iff_acknowledged (h : ∀ rows, g.refused rows = none) :
    g.Judged talk none ↔ talk.Acknowledged g.statement := by
  rw [judged_none_iff]
  constructor
  · rintro ⟨_, -, reply, hmem, hreply, -⟩
    exact ⟨reply, hmem, hreply⟩
  · rintro ⟨reply, hmem, hreply⟩
    exact ⟨_, h _, reply, hmem, hreply, rfl⟩

/-- The work ends at a gate if its statement fails or its rows are refused. -/
theorem judged_some_iff :
    g.Judged talk (some e) ↔ (∃ code, talk.Failed g.statement code ∧ g.failed code = e) ∨
      ∃ rows, g.refused rows = some e ∧ talk.Found g.statement rows := by
  constructor
  · rintro ⟨reply, hmem, hverdict⟩
    cases reply with
    | failure code => exact .inl ⟨code, hmem, Option.some.inj hverdict⟩
    | rows rs => exact .inr ⟨rs, hverdict, _, hmem, Reply.succeeds_rows rs, rfl⟩
    | affected n => exact .inr ⟨[], hverdict, _, hmem, Reply.succeeds_affected n, rfl⟩
  · rintro (⟨code, hmem, rfl⟩ | ⟨_, hrows, reply, hmem, hreply, rfl⟩)
    · exact ⟨_, hmem, rfl⟩
    · exact ⟨reply, hmem, (verdict_of_succeeds hreply).trans hrows⟩

/-- At a gate that refuses no rows the work ends only if its statement fails. -/
theorem judged_some_iff_failed (h : ∀ rows, g.refused rows = none) :
    g.Judged talk (some e) ↔ ∃ code, talk.Failed g.statement code ∧ g.failed code = e := by
  simp [judged_some_iff, h]

theorem not_judged_nil : ¬ g.Judged [] v := by
  simp [Judged]

theorem judged_cons_self (h : g.statement ∉ talk.sent) :
    g.Judged (⟨g.statement, reply⟩ :: talk) v ↔ g.verdict reply = v := by
  constructor
  · rintro ⟨reply', hmem, hverdict⟩
    rcases List.mem_cons.mp hmem with heq | hmem
    · cases heq
      exact hverdict
    · exact absurd (Transcript.mem_sent.mpr ⟨reply', hmem⟩) h
  · intro hverdict
    exact ⟨reply, List.mem_cons_self, hverdict⟩

theorem judged_cons_of_ne (h : g.statement ≠ s) :
    g.Judged (⟨s, reply⟩ :: talk) v ↔ g.Judged talk v := by
  simp [Judged, h]

end Gate

/-- How the work of some gates goes, where `a` is its value: the gates are passed one after another,
up to the first one at which the work ends with an error. -/
inductive Course (a : α) : List (Gate ε) → Transcript → Except ε α → Prop where
  | arrive : Course a [] [] (.ok a)
  | stop {g : Gate ε} {gates : List (Gate ε)} {reply : Reply} {e : ε}
      (hverdict : g.verdict reply = some e) :
      Course a (g :: gates) [⟨g.statement, reply⟩] (.error e)
  | pass {g : Gate ε} {gates : List (Gate ε)} {reply : Reply} {talk : Transcript} {r : Except ε α}
      (hverdict : g.verdict reply = none) (h : Course a gates talk r) :
      Course a (g :: gates) (⟨g.statement, reply⟩ :: talk) r

namespace Course

variable {a b : α} {g : Gate ε} {gates before after : List (Gate ε)} {talk : Transcript}
  {r : Except ε α} {e : ε}

/-- The statements are sent in order, up to some point. -/
theorem sent_isPrefix (h : Course a gates talk r) : talk.sent <+: gates.map Gate.statement := by
  induction h with
  | arrive => exact List.prefix_rfl
  | stop => exact ⟨_, rfl⟩
  | pass _ _ ih => exact (List.prefix_cons_inj _).mpr ih

theorem not_mem_sent (h : Course a gates talk r) {s : Statement}
    (hs : s ∉ gates.map Gate.statement) : s ∉ talk.sent :=
  fun hmem => hs (h.sent_isPrefix.subset hmem)

/-- After a statement that fails nothing is sent. -/
theorem pairwise_succeeds (h : Course a gates talk r) :
    talk.Pairwise fun turn _ => turn.reply.Succeeds := by
  induction h with
  | arrive => exact .nil
  | stop => exact List.pairwise_singleton _ _
  | @pass g _ reply _ _ hverdict _ ih =>
      refine List.pairwise_cons.mpr ⟨?_, ih⟩
      rintro turn - code rfl
      cases hverdict

theorem eq_of_ok (h : Course a gates talk (.ok b)) : b = a := by
  generalize hr : (Except.ok b : Except ε α) = r at h
  induction h with
  | arrive => exact Except.ok.inj hr
  | stop => cases hr
  | pass _ _ ih => exact ih hr

/-- The verdicts at the later gates do not depend on the first turn. -/
theorem judged_cons_of_mem {g' : Gate ε} {reply : Reply} {v : Option ε}
    (hn : g.statement ∉ gates.map Gate.statement) (hg' : g' ∈ gates) :
    g'.Judged (⟨g.statement, reply⟩ :: talk) v ↔ g'.Judged talk v :=
  Gate.judged_cons_of_ne fun heq => hn (heq ▸ List.mem_map_of_mem hg')

/-- The work has a value if all gates are passed. -/
theorem ok_iff (h : Course a gates talk r) (hn : (gates.map Gate.statement).Nodup) :
    r = .ok a ↔ ∀ g ∈ gates, g.Judged talk none := by
  induction h with
  | arrive => simp
  | stop hverdict =>
      rw [List.forall_mem_cons, Gate.judged_cons_self List.not_mem_nil, hverdict]
      simp
  | @pass g gates reply talk r hverdict h ih =>
      obtain ⟨hg, hn⟩ := List.nodup_cons.mp hn
      rw [ih hn, List.forall_mem_cons, Gate.judged_cons_self (h.not_mem_sent hg)]
      simp only [hverdict, true_and]
      exact forall₂_congr fun g' hg' => (judged_cons_of_mem hg hg').symm

/-- The work ends with an error if it ends at some gate with this error. -/
theorem error_iff (h : Course a gates talk r) (hn : (gates.map Gate.statement).Nodup) :
    r = .error e ↔ ∃ g ∈ gates, g.Judged talk (some e) := by
  induction h with
  | arrive => simp
  | @stop g gates reply e' hverdict =>
      obtain ⟨hg, -⟩ := List.nodup_cons.mp hn
      have hrest : ¬ ∃ g' ∈ gates, g'.Judged [⟨g.statement, reply⟩] (some e) := by
        rintro ⟨g', hg', hjudged⟩
        exact Gate.not_judged_nil ((judged_cons_of_mem hg hg').mp hjudged)
      rw [List.exists_mem_cons_iff, Gate.judged_cons_self List.not_mem_nil, hverdict]
      simp [hrest]
  | @pass g gates reply talk r hverdict h ih =>
      obtain ⟨hg, hn⟩ := List.nodup_cons.mp hn
      rw [ih hn, List.exists_mem_cons_iff, Gate.judged_cons_self (h.not_mem_sent hg)]
      simp only [hverdict, reduceCtorEq, false_or]
      exact exists_congr fun g' => and_congr_right fun hg' => (judged_cons_of_mem hg hg').symm

/-- The statement of a gate is sent once all gates before it are passed. -/
theorem sent_iff (h : Course a (before ++ g :: after) talk r)
    (hn : ((before ++ g :: after).map Gate.statement).Nodup) :
    g.statement ∈ talk.sent ↔ ∀ g' ∈ before, g'.Judged talk none := by
  induction before generalizing talk with
  | nil =>
      cases h with
      | stop | pass => simp [Transcript.sent]
  | cons g₀ before ih =>
      obtain ⟨hg₀, hn⟩ := List.nodup_cons.mp hn
      have hne : g.statement ≠ g₀.statement := by
        intro heq
        exact hg₀ (heq ▸ List.mem_map_of_mem (by simp))
      rw [List.forall_mem_cons]
      cases h with
      | stop hverdict =>
          rw [Gate.judged_cons_self List.not_mem_nil, hverdict]
          simp [Transcript.sent, hne]
      | @pass _ _ reply talk _ hverdict h =>
          have hcons : g.statement ∈ Transcript.sent (⟨g₀.statement, reply⟩ :: talk) ↔
              g.statement ∈ talk.sent := by
            simp [Transcript.sent, hne]
          rw [Gate.judged_cons_self (h.not_mem_sent hg₀), hcons, ih h hn]
          simp only [hverdict, true_and]
          refine forall₂_congr fun g' hg' => (judged_cons_of_mem hg₀ ?_).symm
          exact List.mem_append_left _ hg'

/-- The work has a value if its last gate is passed. -/
theorem ok_iff_last (h : Course a (gates ++ [g]) talk r)
    (hn : ((gates ++ [g]).map Gate.statement).Nodup) : r = .ok a ↔ g.Judged talk none := by
  rw [h.ok_iff hn]
  constructor
  · intro hall
    exact hall g (by simp)
  · rintro hlast g' hg'
    obtain ⟨reply, hmem, -⟩ := id hlast
    rcases List.mem_append.mp hg' with hg' | hg'
    · exact (h.sent_iff hn).mp (Transcript.mem_sent.mpr ⟨reply, hmem⟩) g' hg'
    · rwa [List.mem_singleton.mp hg']

end Course

end Reminders.Database
