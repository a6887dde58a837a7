import Reminders.Proofs.Database.Transcript

/-!
# Database — transactions of gates

If the work of a transaction is a row of gates, then the transaction is one itself, from `BEGIN` to
`COMMIT`, and the gate that ends it decides what it returns.

* `says_transaction`: such a transaction returns, and it settles as its gates demand.
* `Settles.sent_iff`, `Settles.commit_sent_iff`, `Settles.rollback_sent_iff`: what it sends.
* `Settles.ok_iff`, `Settles.error_iff`: what it returns.
-/

namespace Reminders.Database

variable {σ ε α β : Type}

/-! ### How a transaction goes -/

namespace Dialogue

instance : LawfulMonad Dialogue := by
  refine LawfulMonad.mk' Dialogue ?_ ?_ ?_
  · intro α d
    induction d with
    | done a => rfl
    | ask s next ih => exact congrArg (Dialogue.ask s) (funext ih)
    | halt => rfl
  · intro α β a f
    rfl
  · intro α β γ d f g
    induction d with
    | done a => rfl
    | ask s next ih => exact congrArg (Dialogue.ask s) (funext ih)
    | halt => rfl

/-- Sends the statements of the gates one after another and returns `a` if all gates are passed. -/
def through (a : α) : List (Gate ε) → Dialogue (Except ε α)
  | [] => .done (.ok a)
  | g :: gates => .ask g.statement fun reply =>
    match g.verdict reply with
    | some e => .done (.error e)
    | none => through a gates

/-- A dialogue goes through a gate first if it fails with the statement, ends where rows are refused
and goes on through the other gates otherwise. -/
theorem ask_eq_through {a : α} {g : Gate ε} {gates : List (Gate ε)}
    {next : Reply → Dialogue (Except ε α)}
    (hfailed : ∀ code, next (.failure code) = .done (.error (g.failed code)))
    (hstop : ∀ (reply : Reply) (e : ε), reply.Succeeds → g.refused reply.found = some e →
      next reply = .done (.error e))
    (hpass : ∀ reply : Reply, reply.Succeeds → g.refused reply.found = none →
      next reply = through a gates) :
    .ask g.statement next = through a (g :: gates) := by
  refine congrArg (Dialogue.ask g.statement) (funext fun reply => ?_)
  by_cases hreply : reply.Succeeds
  · rw [Gate.verdict_of_succeeds hreply]
    cases hrows : g.refused reply.found with
    | some e => exact hstop reply e hreply hrows
    | none => exact hpass reply hreply hrows
  · cases reply with
    | failure code => exact hfailed code
    | rows rs => exact absurd (Reply.succeeds_rows rs) hreply
    | affected n => exact absurd (Reply.succeeds_affected n) hreply

end Dialogue

/-- A statement that only opens or closes a transaction. -/
def Gate.control (failed : String → ε) (s : Statement) : Gate ε :=
  ⟨s, failed, fun _ => none⟩

theorem Gate.judged_control_none {failed : String → ε} {s : Statement} {talk : Transcript} :
    (control failed s).Judged talk none ↔ talk.Acknowledged s :=
  judged_none_iff_acknowledged fun _ => rfl

theorem Gate.judged_control_some {failed : String → ε} {s : Statement} {talk : Transcript} {e : ε} :
    (control failed s).Judged talk (some e) ↔ ∃ code, talk.Failed s code ∧ failed code = e :=
  judged_some_iff_failed fun _ => rfl

/-- All that a transaction with the given work may have to pass. -/
def Gate.transaction (failed : String → ε) (gates : List (Gate ε)) : List (Gate ε) :=
  .control failed .begin :: (gates ++ [.control failed .commit])

/-- How a transaction with the given work goes: it takes a course from `BEGIN` to `COMMIT`, and what
has begun and fails is rolled back. -/
inductive Settles (failed : String → ε) (a : α) (gates : List (Gate ε)) :
    Transcript → Except ε α → Prop where
  | commit {talk : Transcript} {b : α}
      (h : Course a (Gate.transaction failed gates) talk (.ok b)) :
      Settles failed a gates talk (.ok b)
  | refuse {talk : Transcript} {e : ε}
      (h : Course a (Gate.transaction failed gates) talk (.error e))
      (hbegin : ¬ talk.Acknowledged .begin) : Settles failed a gates talk (.error e)
  | rollback {talk : Transcript} {e : ε} (reply : Reply)
      (h : Course a (Gate.transaction failed gates) talk (.error e))
      (hbegin : talk.Acknowledged .begin) :
      Settles failed a gates (talk ++ [⟨.rollback, reply⟩]) (.error e)

namespace Dialogue

variable {failed : String → ε} {a : α} {gates : List (Gate ε)} {talk : Transcript}
  {r : Option (Except ε α)}

/-- After its work a transaction commits, or rolls back if the work or the commit has failed. -/
theorem says_through_conclude (h : (through a gates >>= conclude failed).Says talk r) :
    ∃ main r', r = some r' ∧ Course a (gates ++ [.control failed .commit]) main r' ∧
      ((∃ b, r' = .ok b) ∧ talk = main ∨
        (∃ e, r' = .error e) ∧ ∃ reply, talk = main ++ [⟨.rollback, reply⟩]) := by
  induction gates generalizing talk with
  | nil =>
      have h : (conclude failed (.ok a)).Says talk r := h
      cases h with
      | ask reply h =>
          cases reply with
          | failure code =>
              cases h with
              | ask reply' h =>
                  cases h
                  exact ⟨_, _, rfl, .stop rfl, .inr ⟨⟨_, rfl⟩, reply', rfl⟩⟩
          | rows _ | affected _ =>
              cases h
              exact ⟨_, _, rfl, .pass rfl .arrive, .inl ⟨⟨_, rfl⟩, rfl⟩⟩
  | cons g gates ih =>
      cases h with
      | ask reply h =>
          dsimp only at h
          cases hverdict : g.verdict reply with
          | some e =>
              rw [hverdict] at h
              cases h with
              | ask reply' h =>
                  cases h
                  exact ⟨_, _, rfl, .stop hverdict, .inr ⟨⟨_, rfl⟩, reply', rfl⟩⟩
          | none =>
              rw [hverdict] at h
              obtain ⟨main, r', hr, hcourse, hend⟩ := ih h
              refine ⟨_, r', hr, .pass hverdict hcourse, ?_⟩
              rcases hend with ⟨hok, rfl⟩ | ⟨herror, reply', rfl⟩
              · exact .inl ⟨hok, rfl⟩
              · exact .inr ⟨herror, reply', rfl⟩

/-- **How a transaction goes.**  A transaction whose work is a row of gates returns, and settles as
they demand. -/
theorem says_transaction (h : (transaction failed (through a gates)).Says talk r) :
    ∃ r', r = some r' ∧ Settles failed a gates talk r' := by
  rw [transaction_eq] at h
  cases h with
  | @ask _ _ talk _ reply h =>
      by_cases hreply : reply.Succeeds
      · have h : (through a gates >>= conclude failed).Says talk r := by
          cases reply with
          | failure code => exact absurd rfl (hreply code)
          | rows _ | affected _ => exact h
        obtain ⟨main, r', rfl, hcourse, hend⟩ := says_through_conclude h
        have hbegin : Transcript.Acknowledged (⟨.begin, reply⟩ :: main) .begin :=
          ⟨reply, List.mem_cons_self, hreply⟩
        have hcourse : Course a (Gate.transaction failed gates) (⟨.begin, reply⟩ :: main) r' :=
          .pass (Gate.verdict_of_succeeds hreply) hcourse
        refine ⟨r', rfl, ?_⟩
        rcases hend with ⟨⟨b, rfl⟩, rfl⟩ | ⟨⟨e, rfl⟩, reply', rfl⟩
        · exact .commit hcourse
        · exact .rollback reply' hcourse hbegin
      · cases reply with
        | failure code =>
            cases h
            refine ⟨_, rfl, .refuse (.stop rfl) ?_⟩
            rintro ⟨reply, hmem, hsucceeds⟩
            cases List.mem_singleton.mp hmem
            exact hsucceeds code rfl
        | rows _ | affected _ => exact absurd (fun _ => nofun) hreply

theorem settles_run (peer : Statement → StateM σ Reply) (w : σ) :
    ∃ r, ((transaction failed (through a gates)).run peer w).1 = some r ∧
      Settles failed a gates ((transaction failed (through a gates)).transcript peer w) r :=
  says_transaction (says_run peer _ w)

end Dialogue

/-! ### What the transcript of a transaction tells -/

/-- The work sends distinct queries. -/
structure Gate.AreDistinct (gates : List (Gate ε)) : Prop where
  nodup : (gates.map Gate.statement).Nodup
  isQuery : ∀ g ∈ gates, ∃ q parameters, g.statement = .query q parameters

theorem Gate.AreDistinct.nodup_transaction {gates : List (Gate ε)} (h : Gate.AreDistinct gates)
    (failed : String → ε) :
    ((Gate.transaction failed gates).map Gate.statement).Nodup ∧
      Statement.rollback ∉ (Gate.transaction failed gates).map Gate.statement := by
  have hquery : ∀ s ∈ gates.map Gate.statement, ∃ q parameters, s = .query q parameters := by
    intro s hs
    obtain ⟨g, hg, rfl⟩ := List.mem_map.mp hs
    exact h.isQuery g hg
  have hcontrol : ∀ s, (∀ q parameters, s ≠ .query q parameters) →
      s ∉ gates.map Gate.statement := by
    intro s hs hmem
    obtain ⟨q, parameters, rfl⟩ := hquery s hmem
    exact hs q parameters rfl
  simp only [Gate.transaction, Gate.control, List.map_cons, List.map_append, List.map_nil]
  refine ⟨List.nodup_cons.mpr ⟨?_, List.Nodup.append h.nodup (List.nodup_singleton _) ?_⟩, ?_⟩
  · simpa using hcontrol .begin nofun
  · simpa using hcontrol .commit nofun
  · simpa using hcontrol .rollback nofun

namespace Settles

variable {failed : String → ε} {a : α} {g : Gate ε} {gates before after : List (Gate ε)}
  {talk : Transcript} {r : Except ε α} {e : ε}

/-- What is said before the transaction is rolled back, if it is. -/
theorem exists_course (h : Settles failed a gates talk r) :
    ∃ main, Course a (Gate.transaction failed gates) main r ∧
      (∀ {s : Statement} {reply : Reply}, s ≠ .rollback →
        (⟨s, reply⟩ ∈ talk ↔ ⟨s, reply⟩ ∈ main)) ∧
      (talk.sent = main.sent ∧ ((∃ b, r = .ok b) ∨ ¬ talk.Acknowledged .begin) ∨
        talk.sent = main.sent ++ [.rollback] ∧ (∃ e, r = .error e) ∧
          talk.Acknowledged .begin) := by
  cases h with
  | commit h => exact ⟨talk, h, fun _ => .rfl, .inl ⟨rfl, .inl ⟨_, rfl⟩⟩⟩
  | refuse h hbegin => exact ⟨talk, h, fun _ => .rfl, .inl ⟨rfl, .inr hbegin⟩⟩
  | @rollback main e reply h hbegin =>
      refine ⟨main, h, fun hs => by simp [hs], .inr ⟨List.map_append, ⟨_, rfl⟩, ?_⟩⟩
      obtain ⟨reply', hmem, hreply'⟩ := hbegin
      exact ⟨reply', List.mem_append_left _ hmem, hreply'⟩

theorem eq_of_ok {b : α} (h : Settles failed a gates talk (.ok b)) : b = a := by
  cases h with
  | commit h => exact h.eq_of_ok

/-- The statements are sent in order, up to some point, and then perhaps `ROLLBACK`. -/
theorem sent_isPrefix (h : Settles failed a gates talk r) :
    ∃ sent, sent <+: .begin :: (gates.map Gate.statement ++ [.commit]) ∧
      (talk.sent = sent ∨ talk.sent = sent ++ [.rollback]) := by
  obtain ⟨main, hcourse, -, hsent⟩ := h.exists_course
  refine ⟨main.sent, by simpa [Gate.transaction, Gate.control] using hcourse.sent_isPrefix, ?_⟩
  exact hsent.imp And.left And.left

/-- After a statement that fails nothing but `ROLLBACK` is sent. -/
theorem pairwise_succeeds_or_rollback (h : Settles failed a gates talk r) :
    talk.Pairwise fun turn next => turn.reply.Succeeds ∨ next.statement = .rollback := by
  cases h with
  | commit h | refuse h => exact h.pairwise_succeeds.imp .inl
  | rollback reply h =>
      refine List.pairwise_append.mpr
        ⟨h.pairwise_succeeds.imp .inl, List.pairwise_singleton _ _, ?_⟩
      intro turn _ next hnext
      rw [List.mem_singleton.mp hnext]
      exact .inr rfl

section Distinct

variable (h : Settles failed a gates talk r) (hd : Gate.AreDistinct gates)

include h hd

/-- What is said before the transaction is rolled back tells the same about its gates. -/
theorem exists_course_of_distinct :
    ∃ main, Course a (Gate.transaction failed gates) main r ∧
      ∀ g ∈ Gate.transaction failed gates, ∀ v,
        (g.statement ∈ talk.sent ↔ g.statement ∈ main.sent) ∧
          (g.Judged talk v ↔ g.Judged main v) := by
  obtain ⟨main, hcourse, hmem, -⟩ := h.exists_course
  obtain ⟨-, hrollback⟩ := hd.nodup_transaction failed
  refine ⟨main, hcourse, fun g hg v => ?_⟩
  have hne : g.statement ≠ .rollback := by
    intro heq
    exact hrollback (heq ▸ List.mem_map_of_mem hg)
  refine ⟨?_, exists_congr fun reply => and_congr_left fun _ => hmem hne⟩
  rw [Transcript.mem_sent, Transcript.mem_sent]
  exact exists_congr fun reply => hmem hne

/-- A statement is sent once all that comes before it in the transaction is passed. -/
theorem sent_iff_passed (hgates : Gate.transaction failed gates = before ++ g :: after) :
    g.statement ∈ talk.sent ↔ ∀ g' ∈ before, g'.Judged talk none := by
  obtain ⟨main, hcourse, htold⟩ := h.exists_course_of_distinct hd
  obtain ⟨hn, -⟩ := hd.nodup_transaction failed
  rw [hgates] at hcourse hn htold
  rw [(htold g (by simp) none).1, hcourse.sent_iff hn]
  exact forall₂_congr fun g' hg' => (htold g' (List.mem_append_left _ hg') none).2.symm

/-- A statement of the work is sent once the transaction has begun and what comes before it in the
work is passed. -/
theorem sent_iff (hgates : gates = before ++ g :: after) :
    g.statement ∈ talk.sent ↔
      talk.Acknowledged .begin ∧ ∀ g' ∈ before, g'.Judged talk none := by
  have hall : Gate.transaction failed gates =
      (.control failed .begin :: before) ++ g :: (after ++ [.control failed .commit]) := by
    rw [Gate.transaction, hgates, List.append_assoc]
    rfl
  rw [h.sent_iff_passed hd hall, List.forall_mem_cons, Gate.judged_control_none]

theorem sent_iff_take (i : ℕ) (hi : gates[i]? = some g) :
    g.statement ∈ talk.sent ↔
      talk.Acknowledged .begin ∧ ∀ g' ∈ gates.take i, g'.Judged talk none := by
  obtain ⟨hlt, rfl⟩ := List.getElem?_eq_some_iff.mp hi
  have hgates : gates = gates.take i ++ gates[i] :: gates.drop (i + 1) := by
    rw [List.getElem_cons_drop, List.take_append_drop]
  exact h.sent_iff hd hgates

/-- `COMMIT` is sent once the transaction has begun and its work is done. -/
theorem commit_sent_iff :
    .commit ∈ talk.sent ↔ talk.Acknowledged .begin ∧ ∀ g ∈ gates, g.Judged talk none := by
  have hgates : Gate.transaction failed gates =
      (.control failed .begin :: gates) ++ .control failed .commit :: [] := rfl
  have hcommit : Statement.commit ∈ talk.sent ↔ _ := h.sent_iff_passed hd hgates
  rw [hcommit, List.forall_mem_cons, Gate.judged_control_none]

/-- `COMMIT` is sent once the last statement of the work is passed. -/
theorem commit_sent_iff_last (hgates : gates = before ++ [g]) :
    .commit ∈ talk.sent ↔ g.Judged talk none := by
  rw [h.commit_sent_iff hd]
  constructor
  · rintro ⟨-, hall⟩
    exact hall g (by simp [hgates])
  · intro hlast
    obtain ⟨reply, hmem, -⟩ := id hlast
    obtain ⟨hbegin, hbefore⟩ := (h.sent_iff hd hgates).mp (Transcript.mem_sent.mpr ⟨reply, hmem⟩)
    refine ⟨hbegin, ?_⟩
    simpa [hgates, or_imp, forall_and] using ⟨hbefore, hlast⟩

/-- The transaction has a value if `COMMIT` is acknowledged. -/
theorem ok_iff : (∃ b, r = .ok b) ↔ talk.Acknowledged .commit := by
  obtain ⟨main, hcourse, htold⟩ := h.exists_course_of_distinct hd
  obtain ⟨hn, -⟩ := hd.nodup_transaction failed
  have hgates : Gate.transaction failed gates =
      (.control failed .begin :: gates) ++ [.control failed .commit] := rfl
  have hlast : r = .ok a ↔ (Gate.control failed .commit).Judged main none := by
    rw [hgates] at hcourse hn
    exact hcourse.ok_iff_last hn
  rw [← (htold _ (by simp [Gate.transaction]) none).2, Gate.judged_control_none] at hlast
  rw [← hlast]
  constructor
  · rintro ⟨b, rfl⟩
    rw [h.eq_of_ok]
  · intro hr
    exact ⟨a, hr⟩

/-- The transaction is rolled back if it has begun and is not committed. -/
theorem rollback_sent_iff :
    .rollback ∈ talk.sent ↔ talk.Acknowledged .begin ∧ ¬ talk.Acknowledged .commit := by
  rw [← h.ok_iff hd]
  obtain ⟨main, hcourse, -, hsent⟩ := h.exists_course
  obtain ⟨-, hrollback⟩ := hd.nodup_transaction failed
  rcases hsent with ⟨hsent, hend⟩ | ⟨hsent, ⟨e, rfl⟩, hbegin⟩
  · rw [hsent]
    refine iff_of_false (hcourse.not_mem_sent hrollback) ?_
    rintro ⟨hbegin, hok⟩
    exact hend.elim hok fun hbegin' => hbegin' hbegin
  · rw [hsent]
    refine iff_of_true (by simp) ⟨hbegin, ?_⟩
    rintro ⟨b, hb⟩
    cases hb

/-- The transaction fails if it cannot begin or commit, or if its work fails. -/
theorem error_iff :
    r = .error e ↔
      (∃ code, (talk.Failed .begin code ∨ talk.Failed .commit code) ∧ failed code = e) ∨
        ∃ g ∈ gates, g.Judged talk (some e) := by
  obtain ⟨main, hcourse, htold⟩ := h.exists_course_of_distinct hd
  obtain ⟨hn, -⟩ := hd.nodup_transaction failed
  have herror : r = .error e ↔ ∃ g ∈ Gate.transaction failed gates, g.Judged talk (some e) := by
    rw [hcourse.error_iff hn]
    exact exists_congr fun g => and_congr_right fun hg => (htold g hg _).2.symm
  rw [herror]
  simp only [Gate.transaction, List.mem_cons, List.mem_append, List.not_mem_nil, or_false,
    or_and_right, exists_or, exists_eq_left, Gate.judged_control_some]
  exact (or_congr_right or_comm).trans or_assoc.symm

end Distinct

end Settles

end Reminders.Database
