import Reminders.Proofs.Database.Sessions

/-!
# Store — a client that nobody hinders

Where the other sessions hold nothing, a client gets from statement to statement without waiting,
and the event that it creates is committed if the table is clear for it.

* `create_commits`: such a client adds its row to the committed ones.
-/

namespace Reminders.DatabaseStore

open Database Database.Dialogue

variable {ι κ : Type} {hash : String → κ} [DecidableEq ι]

/-- From the world `w` a session can get, alone, to this program and this standing, with these rows
committed. -/
def Alone (hash : String → κ) (w : World ι κ) (i : ι) (table : Table)
    (program : Dialogue (Except StoreError StoreAnswer)) (st : Standing κ) : Prop :=
  ∃ w' : World ι κ, w'.Reachable hash ∧ w'.table = table ∧
    w'.sessions i = ⟨some program, none, st⟩ ∧ ∀ j, j ≠ i → w'.sessions j = w.sessions j

/-- The other sessions hold no keys and no locks. -/
def IsFree (w : World ι κ) (i : ι) : Prop :=
  ∀ j, j ≠ i → (w.sessions j).standing.keys = [] ∧ (w.sessions j).standing.ids = []

namespace Alone

variable {w : World ι κ} {i : ι} {table : Table} {st : Standing κ}

theorem call (h : w.Reachable hash) (i : ι) (hi : w.sessions i = .idle) (op : StoreOperation) :
    Alone hash w i w.table (store.perform op) .outside :=
  ⟨_, .step h (.call op hi), rfl, w.put_self i _ _, fun _ hj => w.put_ne hj _ _⟩

/-- A statement is sent and answered at once. -/
theorem exchange {s : Statement} {next : Reply → Dialogue (Except StoreError StoreAnswer)}
    {table' : Table} {st' : Standing κ} {reply : Reply}
    (h : Alone hash w i table (.ask s next) st)
    (hx : ∀ w' : World ι κ, w'.table = table → (∀ j, j ≠ i → w'.sessions j = w.sessions j) →
      w'.Executes hash i table st s table' st' reply) :
    Alone hash w i table' (next reply) st' := by
  obtain ⟨w', hw', rfl, hi, hothers⟩ := h
  have hsent := World.Reachable.step hw' (.send hi)
  have hsame : ∀ j, j ≠ i → (w'.put i w'.table ⟨some (.ask s next), some w'.table, st⟩).sessions j =
      w.sessions j := fun j hj => (w'.put_ne hj _ _).trans (hothers j hj)
  refine ⟨_, .step hsent (.answer (w'.put_self i _ _) (hx _ rfl hsame)), rfl,
    World.put_self _ i _ _, ?_⟩
  exact fun j hj => (World.put_ne _ hj _ _).trans (hsame j hj)

theorem begin {next : Reply → Dialogue (Except StoreError StoreAnswer)}
    (h : Alone hash w i table (.ask .begin next) .outside) :
    Alone hash w i table (next .nothing) (.inside ⟨[], [], []⟩) :=
  h.exchange fun w' hw' _ => by
    subst hw'
    exact .begin

theorem commit {next : Reply → Dialogue (Except StoreError StoreAnswer)}
    (h : Alone hash w i table (.ask .commit next) st) :
    Alone hash w i (table.apply st.changes) (next .nothing) .outside :=
  h.exchange fun w' hw' _ => by
    subst hw'
    exact .commit st

/-- A query of a transaction finds what is committed and what the transaction has changed. -/
theorem query {q : Query} {parameters : List Value}
    {next : Reply → Dialogue (Except StoreError StoreAnswer)} {changes : List Change}
    (h : ∃ keys ids, Alone hash w i table (.ask (.query q parameters) next)
      (.inside ⟨changes, keys, ids⟩)) (hfree : IsFree w i) {reply : Reply} {changes' : List Change}
    (hout : q.outcome parameters (table.apply changes) = (reply, changes'))
    (hreply : reply.Succeeds) :
    ∃ keys ids, Alone hash w i table (next reply) (.inside ⟨changes ++ changes', keys, ids⟩) := by
  obtain ⟨keys, ids, h⟩ := h
  let found := table.apply changes
  refine ⟨keys ++ (q.users parameters).map hash, ids ++ q.ids parameters found,
    h.exchange fun w' hw' hothers => ?_⟩
  have hgrant : w'.Grants hash i q parameters found := fun j hj => by
    rw [hothers j hj, (hfree j hj).1, (hfree j hj).2]
    exact ⟨fun _ _ => List.not_mem_nil, fun _ _ => List.not_mem_nil⟩
  subst hw'
  have hx : w'.Executes hash i w'.table (.inside ⟨changes, keys, ids⟩) (.query q parameters)
      w'.table (.inside (Transaction.extend hash ⟨changes, keys, ids⟩ q parameters found))
      (q.outcome parameters found).1 :=
    .query (q.finds_all found) hgrant (by rw [hout]; exact hreply)
  rw [Transaction.extend, hout] at hx
  exact hx

end Alone

/-- **A client that nobody hinders** commits its event if the table has no row of that id and is
clear for it. -/
theorem create_commits {w : World ι κ} {i : ι} (h : w.Reachable hash) (hi : w.sessions i = .idle)
    (hfree : IsFree w i) (fresh : String) (e : Event) {row : EventRow}
    (hrow : row = .ofEvent (e.identified fresh)) (hvalid : row.isValid = true)
    (hnew : ¬ w.table.Has row.id) (hclear : w.table.ClearFor row) :
    ∃ w' : World ι κ, w'.Reachable hash ∧ w'.table = w.table ++ [row] ∧ w'.sessions i = .idle ∧
      ∀ j, j ≠ i → w'.sessions j = w.sessions j := by
  subst hrow
  have hbegun := Alone.begin (Alone.call h i hi (.create fresh e))
  have hlocked := Alone.query ⟨_, _, hbegun⟩ hfree rfl (Reply.succeeds_rows [[.null]])
  have hexists := Alone.query hlocked hfree (Table.outcome_eventExists_of_not_has hnew)
    (Reply.succeeds_rows [])
  have hchecked := Alone.query hexists hfree (Table.outcome_overlappingEvent_of_clear hclear)
    (Reply.succeeds_rows [])
  have hins := Table.outcome_insertEvent (EventRow.ofValues?_valuesOf _) hvalid hnew
  obtain ⟨keys, ids, hwritten⟩ := Alone.query hchecked hfree hins (Reply.succeeds_affected 1)
  obtain ⟨w', hw', htable, hi', hothers⟩ := Alone.commit hwritten
  refine ⟨_, .step hw' .leave, htable, World.put_self _ i _ _, ?_⟩
  exact fun j hj => (World.put_ne _ hj _ _).trans (hothers j hj)

end Reminders.DatabaseStore
